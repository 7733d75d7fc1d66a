import ResumableStreams.Proofs.Tally
import ResumableStreams.Stream.LocalFile
import ResumableStreams.Stream.Scripted

namespace ResumableStreams

/-!
# Nobody notices a local stream

A local stream adds two counts to the file before which it stands, and nothing
else.  Whatever is read and written through it, the answers, the buffers and the
file are what they would be without it, also where the file would block, fails,
or says what is not true.  The counts are those of the responses, as long as
the file says nothing that the runtime does not believe.

Nor does it matter in which way a file is read.  The two ways meet in `Fetch.copyInto`:
a method that hands bytes out does what a method does that puts the same bytes
into the buffer.
-/

/-! ## Exchanges performed one after another -/

/-- An exchange to be performed, with all buffers as they are before.  What
has happened to them since the last call does not matter. -/
structure Errand where
  memory : Memory
  exchange : Exchange
  held : ∀ cell, exchange.carried = .shared cell -> memory.Holds cell

/-- The number of bytes that a response to a request says have moved in a
direction. -/
def Exchange.responded (direction : Direction) (exchange : Exchange)
    (result : Except Fault Exchange) : Nat :=
  match exchange.payload, result with
  | .request _, .ok ⟨given, .response output⟩ => if given = direction then output.count else 0
  | _, _ => 0

namespace Errand

variable {State : Type}

/-- Perform one exchange after another: what comes of each, with the buffers
as they are then, and the state of the stream in the end. -/
def performAll (stream : Stream State) :
    List Errand -> State -> List (Except Fault Exchange × Memory) × State
  | [], state => ([], state)
  | errand :: errands, state =>
    let performed := handle .blocking stream errand.exchange ⟨errand.memory, #[], state⟩
    let later := performAll stream errands performed.2.state
    ((performed.1, performed.2.memory) :: later.1, later.2)

/-- The number of bytes that have moved in a direction, by all responses to
requests. -/
def responded (direction : Direction) :
    List Errand -> List (Except Fault Exchange × Memory) -> Nat
  | errand :: errands, result :: results =>
    errand.exchange.responded direction result.1 + responded direction errands results
  | _, _ => 0

end Errand

/-! ## What a file says -/

/-- The length of a buffer after a read.  That of immutable bytes is the same. -/
def Lent.sizeAfter (lent : Lent) (filling : Filling) : Nat :=
  if lent.mutable then filling.contents.length else lent.size

namespace Stream

variable {State : Type}

/-- Reading and writing lead from such states to such states. -/
structure Keeps (file : Stream State) (holds : State -> Prop) : Prop where
  fill : ∀ lent {state}, holds state -> holds (file.fill .blocking lent state).2
  offer : ∀ lent {state}, holds state -> holds (file.offer .blocking lent state).2

/-- In these states, no count lies outside the buffer, as the file leaves it. -/
structure CountsInRange (file : Stream State) (holds : State -> Prop) : Prop where
  read : ∀ lent {state count}, holds state ->
    (file.fill .blocking lent state).1.reply = .moved count ->
    0 ≤ count ∧ count ≤ lent.sizeAfter (file.fill .blocking lent state).1
  write : ∀ lent {state count}, holds state ->
    (file.offer .blocking lent state).1 = .moved count -> 0 ≤ count ∧ count ≤ lent.size

/-- A count that is believed is that of the response. -/
theorem responded_answer (direction : Direction) {buffer : Buffer} {reply : Reply}
    {memory : Memory}
    (inRange : ∀ count, reply = .moved count -> 0 ≤ count ∧ count ≤ buffer.size memory)
    (asked : Direction) :
    ((⟨direction, .request buffer⟩ : Exchange).responded asked
        (Exchange.answer ⟨direction, .request buffer⟩ buffer reply memory) : Int) =
      if direction = asked then LocalFile.moved reply else 0 := by
  have gives := Exchange.gives_answer direction buffer reply memory
  generalize Exchange.answer ⟨direction, .request buffer⟩ buffer reply memory = result at gives ⊢
  cases gives with
  | blocked => exact (ite_self 0).symm
  | raised fault => exact (ite_self 0).symm
  | refused count outside => exact absurd (inRange count rfl) outside
  | moved count fits =>
    by_cases same : direction = asked
    · simp only [Exchange.responded, if_pos same, LocalFile.moved]
    · simp only [Exchange.responded, if_neg same, Int.natCast_zero]

/-- A read is answered by what the stream replies, and the runtime measures what
the read has left of the buffer. -/
theorem handle_read_request {stream : Stream State} {concurrency : Concurrency} {buffer : Buffer}
    (context : Context State) {filling : Filling} {after : State}
    (held : ∀ cell, buffer = .shared cell -> context.memory.Holds cell)
    (filled : stream.fill concurrency ⟨buffer.bytes context.memory, buffer.isMutable⟩
      context.state = (filling, after)) :
    let performed := handle concurrency stream ⟨.read, .request buffer⟩ context
    performed.1 =
        Exchange.answer ⟨.read, .request buffer⟩ buffer filling.reply performed.2.memory ∧
      performed.2.state = after ∧
      buffer.size performed.2.memory =
        Lent.sizeAfter ⟨buffer.bytes context.memory, buffer.isMutable⟩ filling := by
  cases buffer with
  | frozen bytes =>
    simp only [Buffer.bytes_frozen, Buffer.isMutable] at filled
    simp only [handle, Context.readInto, Context.note, filled]
    exact ⟨trivial, trivial, rfl⟩
  | shared cell =>
    simp only [Buffer.bytes_shared, Buffer.isMutable] at filled
    simp only [handle, Context.readInto, Context.note, filled]
    exact ⟨trivial, trivial, congrArg List.length (Memory.contents_store_self (held cell rfl) _)⟩

/-- What reading and writing keep holds after an exchange. -/
theorem Keeps.handle {file : Stream State} {holds : State -> Prop} (keeps : file.Keeps holds)
    (exchange : Exchange) (context : Context State) (now : holds context.state) :
    holds (ResumableStreams.handle .blocking file exchange context).2.state := by
  rcases exchange with ⟨direction, payload⟩
  cases payload with
  | response output =>
    rw [handle_response]
    exact now
  | request buffer =>
    cases direction with
    | read =>
      cases buffer with
      | frozen bytes => exact keeps.fill ⟨bytes, false⟩ now
      | shared cell => exact keeps.fill ⟨context.memory.contents cell, true⟩ now
    | write => exact keeps.offer ⟨buffer.bytes context.memory, buffer.isMutable⟩ now

end Stream

/-! ## Exchanges through a local stream -/

namespace LocalFile

variable {State : Type} {inner : Stream State} {file : LocalFile}

/-- The local stream has not closed its file, which is in this state. -/
def Behind (state : State) (both : LocalFile × State) : Prop :=
  both.1.forgotten = false ∧ both.2 = state

theorem fill_of_remembered (remembered : file.forgotten = false) (concurrency : Concurrency)
    (lent : Lent) (state : State) :
    (stream concurrency inner).fill concurrency lent (file, state) =
      ((inner.unplugged.fill .blocking lent state).1,
        (file.countRead (inner.unplugged.fill .blocking lent state).1.reply,
          (inner.unplugged.fill .blocking lent state).2)) := by
  have reads : (stream concurrency inner).fill concurrency lent (file, state) =
      readInto inner lent (file, state) := by
    cases concurrency <;> rfl
  rw [reads, readInto_of_remembered remembered]

theorem offer_of_remembered (remembered : file.forgotten = false) (concurrency : Concurrency)
    (lent : Lent) (state : State) :
    (stream concurrency inner).offer concurrency lent (file, state) =
      ((inner.unplugged.offer .blocking lent state).1,
        (file.countWritten (inner.unplugged.offer .blocking lent state).1,
          (inner.unplugged.offer .blocking lent state).2)) := by
  have writes : (stream concurrency inner).offer concurrency lent (file, state) =
      write inner lent (file, state) := by
    cases concurrency <;> rfl
  rw [writes, write_of_remembered remembered]

/-- The local stream passes everything on, and gives back what it gets. -/
theorem imitates_behind (inner : Stream State) (concurrency : Concurrency) :
    inner.unplugged.Imitates Behind .blocking concurrency (stream concurrency inner) where
  fill := by
    rintro _ ⟨file, state⟩ ⟨remembered, rfl⟩ lent
    rw [fill_of_remembered remembered]
    exact ⟨rfl, rfl, remembered, rfl⟩
  offer := by
    rintro _ ⟨file, state⟩ ⟨remembered, rfl⟩ lent
    rw [offer_of_remembered remembered]
    exact ⟨rfl, remembered, rfl⟩

/-- A local stream does not forget its file by reading or writing. -/
theorem keeps_behind {holds : State -> Prop} (keeps : inner.unplugged.Keeps holds) :
    (stream .blocking inner).Keeps fun both => both.1.forgotten = false ∧ holds both.2 where
  fill := by
    rintro lent ⟨file, state⟩ ⟨remembered, now⟩
    rw [fill_of_remembered remembered]
    exact ⟨remembered, keeps.fill lent now⟩
  offer := by
    rintro lent ⟨file, state⟩ ⟨remembered, now⟩
    rw [offer_of_remembered remembered]
    exact ⟨remembered, keeps.offer lent now⟩

/-- What the local stream counts is what the response says. -/
theorem counts_handle {holds : State -> Prop} (inRange : inner.unplugged.CountsInRange holds)
    (errand : Errand) (journal : Array Event) (both : LocalFile × State)
    (now : both.1.forgotten = false ∧ holds both.2) :
    let performed := handle .blocking (stream .blocking inner) errand.exchange
      ⟨errand.memory, journal, both⟩
    performed.2.state.1.bytesRead =
        both.1.bytesRead + errand.exchange.responded .read performed.1 ∧
      performed.2.state.1.bytesWritten =
        both.1.bytesWritten + errand.exchange.responded .write performed.1 := by
  intro performed
  rcases both with ⟨file, state⟩
  rcases now with ⟨remembered, now⟩
  rcases errand with ⟨memory, ⟨direction, payload⟩, held⟩
  cases payload with
  | response output =>
    have same : performed = (.ok ⟨direction, .response output⟩, ⟨memory, journal, (file, state)⟩) :=
      handle_response _ _ _ _ _
    rw [same]
    exact ⟨(Int.add_zero _).symm, (Int.add_zero _).symm⟩
  | request buffer =>
    have held : ∀ cell, buffer = .shared cell -> memory.Holds cell := held
    let lent : Lent := ⟨buffer.bytes memory, buffer.isMutable⟩
    let context : Context (LocalFile × State) := ⟨memory, journal, (file, state)⟩
    cases direction with
    | read =>
      have read : performed.1 = _ ∧ performed.2.state = _ ∧ _ :=
        Stream.handle_read_request context held
          (fill_of_remembered remembered .blocking lent state)
      rcases read with ⟨answered, reached, size⟩
      have counted := Stream.responded_answer .read
        fun count moved => size.symm ▸ inRange.read lent now moved
      rw [reached, answered, counted, counted]
      exact ⟨rfl, (Int.add_zero _).symm⟩
    | write =>
      have written : performed = _ := @handle_write_of_offer _ _ .blocking buffer context _ _
        (offer_of_remembered remembered .blocking lent state)
      have counted := Stream.responded_answer .write
        fun count moved => inRange.write lent now moved
      rw [written, counted, counted]
      exact ⟨(Int.add_zero _).symm, rfl⟩

end LocalFile

namespace Errand

variable {State : Type} {inner : Stream State}

/-- One exchange after another comes to the same. -/
theorem performAll_behind (inner : Stream State) (errands : List Errand) (state : State)
    {file : LocalFile} (remembered : file.forgotten = false) :
    let direct := performAll inner.unplugged errands state
    let wrapped := performAll (LocalFile.stream .blocking inner) errands (file, state)
    wrapped.1 = direct.1 ∧ wrapped.2.2 = direct.2 := by
  induction errands generalizing state file with
  | nil => exact ⟨rfl, rfl⟩
  | cons errand errands inductionHypothesis =>
    have beside : (⟨errand.memory, #[], state⟩ : Context State).Beside LocalFile.Behind
        ⟨errand.memory, #[], (file, state)⟩ :=
      ⟨rfl, remembered, rfl⟩
    rcases (LocalFile.imitates_behind inner .blocking).handle errand.exchange beside with
      ⟨result, memory, remembered', state'⟩
    simp only [performAll]
    generalize handle .blocking (LocalFile.stream .blocking inner) errand.exchange
      ⟨errand.memory, #[], (file, state)⟩ = performed at result memory remembered' state' ⊢
    rcases performed with ⟨_, _, _, file', state''⟩
    cases result
    cases memory
    cases state'
    rcases inductionHypothesis _ remembered' with ⟨results, after⟩
    exact ⟨congrArg _ results, after⟩

/-- The counts of a local stream grow by those of the responses. -/
theorem counts_performAll {holds : State -> Prop} (keeps : inner.unplugged.Keeps holds)
    (inRange : inner.unplugged.CountsInRange holds) (errands : List Errand) (both : LocalFile × State)
    (now : both.1.forgotten = false ∧ holds both.2) :
    let wrapped := performAll (LocalFile.stream .blocking inner) errands both
    wrapped.2.1.bytesRead = both.1.bytesRead + responded .read errands wrapped.1 ∧
      wrapped.2.1.bytesWritten = both.1.bytesWritten + responded .write errands wrapped.1 := by
  induction errands generalizing both with
  | nil => exact ⟨(Int.add_zero _).symm, (Int.add_zero _).symm⟩
  | cons errand errands inductionHypothesis =>
    have kept :=
      (LocalFile.keeps_behind keeps).handle errand.exchange ⟨errand.memory, #[], both⟩ now
    rcases LocalFile.counts_handle inRange errand #[] both now with ⟨read, written⟩
    rcases inductionHypothesis _ kept with ⟨readLater, writtenLater⟩
    simp only [performAll, responded]
    rw [readLater, writtenLater, read, written]
    omega

end Errand

/-! ## Two ways to read -/

namespace Stream

variable {State : Type}

/-- The same file, which hands bytes out where it has read into buffers. -/
def fetchingWith (file : Stream State) (fetch : Nat -> State -> Fetch × State) : Stream State :=
  { file with readInto := none, fetch := some fetch }

/-- What a method that hands bytes out does where another reads into a buffer.
Immutable bytes take nothing but no bytes. -/
inductive Fetch.Does (lent : Lent) : Fetch -> Filling -> Prop where
  | bytes (data : Bytes) ( mutable : lent.mutable = true) :
    Does lent (.bytes data) ⟨Bytes.overStart data lent.bytes, .moved data.length, []⟩
  | nothing : Does lent (.bytes []) (lent.untouched (.moved 0))
  | refused {data : Bytes} (some : data ≠ []) (immutable : lent.mutable = false) :
    Does lent (.bytes data) (lent.untouched (.raised .immutableBytes))
  | wouldBlock : Does lent .wouldBlock (lent.untouched .wouldBlock)
  | raised (fault : Fault) : Does lent (.raised fault) (lent.untouched (.raised fault))

/-- Copying comes to what reading into the buffer comes to. -/
theorem Fetch.Does.copyInto_eq {lent : Lent} {fetched : Fetch} {filling : Filling}
    (does : Does lent fetched filling) : Fetch.copyInto lent fetched = filling := by
  cases does with
  | nothing => rfl
  | wouldBlock => rfl
  | raised fault => rfl
  | bytes data mutable =>
    cases data with
    | nil => rfl
    | cons first rest => exact if_pos mutable
  | @refused data some immutable =>
    cases data with
    | nil => exact absurd rfl some
    | cons first rest => exact if_neg (immutable ▸ Bool.false_ne_true)

/-- In these states, a method that hands bytes out does what the file does that
reads into buffers, mutable or immutable ones. -/
def FetchesAlike (file : Stream State) (fetch : Nat -> State -> Fetch × State)
    (holds : State -> Prop) ( mutable : Bool) : Prop :=
  ∀ bytes state, holds state ->
    let lent : Lent := ⟨bytes, mutable⟩
    let fetched := fetch lent.size state
    let read := file.fill .blocking lent state
    Fetch.Does lent fetched.1 read.1 ∧ fetched.2 = read.2

/-- In these states, nobody can tell two files apart who lends them such
buffers to read into. -/
structure SameFor (file other : Stream State) (holds : State -> Prop) (lends : Bool -> Prop) :
    Prop where
  fill : ∀ lent {state}, lends lent.mutable -> holds state ->
    other.fill .blocking lent state = file.fill .blocking lent state
  offer : ∀ lent {state}, holds state ->
    other.offer .blocking lent state = file.offer .blocking lent state

/-- It does not matter which of the two methods a file has. -/
theorem sameFor_fetchingWith {file : Stream State} {fetch : Nat -> State -> Fetch × State}
    {holds : State -> Prop} {lends : Bool -> Prop} (plain : file.unplugged = file)
    (alike : ∀ mutable, lends mutable -> file.FetchesAlike fetch holds mutable) :
    file.SameFor (file.fetchingWith fetch) holds lends where
  fill := by
    rintro ⟨bytes, mutable⟩ state lent now
    rcases alike mutable lent bytes state now with ⟨does, after⟩
    rw [← plain] at does after ⊢
    exact Prod.ext does.copyInto_eq after
  offer := fun _ _ _ => rfl

/-- A local stream before either file is the same. -/
theorem SameFor.behind {file other : Stream State} {holds : State -> Prop} {lends : Bool -> Prop}
    (same : file.unplugged.SameFor other.unplugged holds lends) :
    (LocalFile.stream .blocking file).SameFor (LocalFile.stream .blocking other)
      (fun both => both.1.forgotten = false ∧ holds both.2) lends where
  fill := by
    rintro lent ⟨file, state⟩ lends ⟨remembered, now⟩
    rw [LocalFile.fill_of_remembered remembered, LocalFile.fill_of_remembered remembered,
      same.fill lent lends now]
  offer := by
    rintro lent ⟨file, state⟩ ⟨remembered, now⟩
    rw [LocalFile.offer_of_remembered remembered, LocalFile.offer_of_remembered remembered,
      same.offer lent now]

theorem SameFor.handle {file other : Stream State} {holds : State -> Prop} {lends : Bool -> Prop}
    (same : file.SameFor other holds lends) {exchange : Exchange}
    (covered : ∀ buffer, exchange = ⟨.read, .request buffer⟩ -> lends buffer.isMutable)
    {context : Context State} (now : holds context.state) :
    ResumableStreams.handle .blocking other exchange context =
      ResumableStreams.handle .blocking file exchange context := by
  rcases exchange with ⟨direction, payload⟩
  cases payload with
  | response output => rw [handle_response, handle_response]
  | request buffer =>
    cases direction with
    | read =>
      cases buffer with
      | frozen bytes =>
        simp only [ResumableStreams.handle, Context.readInto, Context.note,
          same.fill ⟨bytes, false⟩ (covered _ rfl) now]
      | shared cell =>
        simp only [ResumableStreams.handle, Context.readInto, Context.note,
          same.fill ⟨context.memory.contents cell, true⟩ (covered _ rfl) now]
    | write =>
      simp only [ResumableStreams.handle, Context.writeFrom, Context.note, same.offer _ now]

end Stream

namespace Errand

variable {State : Type}

/-- An errand lends a buffer to read into, and the buffer is mutable or not. -/
def Lends (errands : List Errand) ( mutable : Bool) : Prop :=
  ∃ errand ∈ errands, ∃ buffer : Buffer,
    errand.exchange = ⟨.read, .request buffer⟩ ∧ buffer.isMutable = mutable

/-- Files that nobody can tell apart do the same, exchange by exchange. -/
theorem performAll_eq {file other : Stream State} {holds : State -> Prop} {lends : Bool -> Prop}
    (keeps : file.Keeps holds) (same : file.SameFor other holds lends) (errands : List Errand)
    (covered : ∀ mutable, Lends errands mutable -> lends mutable) {state : State}
    (now : holds state) : performAll other errands state = performAll file errands state := by
  induction errands generalizing state with
  | nil => rfl
  | cons errand errands inductionHypothesis =>
    have first : ∀ buffer, errand.exchange = ⟨.read, .request buffer⟩ -> lends buffer.isMutable :=
      fun buffer asked => covered _ ⟨errand, List.mem_cons_self, buffer, asked, rfl⟩
    have others : ∀ mutable, Lends errands mutable -> lends mutable := by
      rintro mutable ⟨later, among, lent⟩
      exact covered mutable ⟨later, List.mem_cons_of_mem _ among, lent⟩
    simp only [performAll]
    rw [same.handle first now, inductionHypothesis others (keeps.handle errand.exchange _ now)]

/-- A local stream is transparent, and so is the way in which its file is read.
For every file, which is no socket, and every sequence of exchanges: what comes
of each of them, with the buffers, and the file in the end are the same whether
or not a local stream stands before the file.  As long as the file says no count
outside the buffer, the local stream has counted what the responses to requests
say.  And the file may hand bytes out by any method that does the same for the
buffers that are lent to it: nothing changes, neither directly nor behind the
local stream. -/
theorem local_stream_is_transparent (file : Stream State) (plain : file.unplugged = file)
    (holds : State -> Prop) (keeps : file.Keeps holds) (owned : Bool) (errands : List Errand)
    (state : State) (now : holds state) :
    let direct := performAll file errands state
    let wrapped := performAll (LocalFile.stream .blocking file) errands (.fresh owned, state)
    (wrapped.1 = direct.1 ∧ wrapped.2.2 = direct.2) ∧
      (file.CountsInRange holds ->
        wrapped.2.1.bytesRead = responded .read errands direct.1 ∧
          wrapped.2.1.bytesWritten = responded .write errands direct.1) ∧
      ∀ fetch,
        (∀ mutable, Lends errands mutable -> file.FetchesAlike fetch holds mutable) ->
        performAll (file.fetchingWith fetch) errands state = direct ∧
          performAll (LocalFile.stream .blocking (file.fetchingWith fetch)) errands
            (.fresh owned, state) = wrapped := by
  intro direct wrapped
  have passed : wrapped.1 = direct.1 ∧ wrapped.2.2 = direct.2 := by
    have behind := @performAll_behind State file errands state (.fresh owned) rfl
    rw [plain] at behind
    exact behind
  refine ⟨passed, ?_, ?_⟩
  · intro inRange
    rcases counts_performAll (plain.symm ▸ keeps) (plain.symm ▸ inRange) errands
      (.fresh owned, state) ⟨rfl, now⟩ with ⟨read, written⟩
    rw [← passed.1]
    exact ⟨read.trans (Int.zero_add _), written.trans (Int.zero_add _)⟩
  · intro fetch alike
    have same : file.SameFor (file.fetchingWith fetch) holds (Lends errands) :=
      Stream.sameFor_fetchingWith plain alike
    refine ⟨performAll_eq keeps same errands (fun _ lent => lent) now, ?_⟩
    rw [← plain] at same keeps
    exact performAll_eq (LocalFile.keeps_behind keeps) same.behind errands (fun _ lent => lent)
      ⟨rfl, now⟩

end Errand

/-! ## Scripted files -/

namespace Scripted

/-- The script never claims a count that has not moved. -/
def Truthful (file : Scripted) : Prop :=
  (∀ count, Prescription.claim count ∉ file.reads) ∧ ∀ count, Prescription.claim count ∉ file.writes

/-- A scripted file that reads into buffers and can be written to. -/
abbrev reading : Stream Scripted := stream .blocking ⟨true, false, true, false⟩

theorem truthful_nextRead {file : Scripted} (truthful : file.Truthful) :
    file.nextRead.2.Truthful ∧ ∀ count, file.nextRead.1 ≠ .claim count := by
  rcases file with ⟨remaining, reads, writes, sink, calls, flushes⟩
  cases reads with
  | nil => exact ⟨truthful, fun count claimed => by cases claimed⟩
  | cons first reads =>
    refine ⟨⟨fun count later => truthful.1 count (List.mem_cons_of_mem _ later), truthful.2⟩, ?_⟩
    rintro count rfl
    exact truthful.1 count List.mem_cons_self

theorem truthful_nextWrite {file : Scripted} (truthful : file.Truthful) :
    file.nextWrite.2.Truthful ∧ ∀ count, file.nextWrite.1 ≠ .claim count := by
  rcases file with ⟨remaining, reads, writes, sink, calls, flushes⟩
  cases writes with
  | nil => exact ⟨truthful, fun count claimed => by cases claimed⟩
  | cons first writes =>
    refine ⟨⟨truthful.1, fun count later => truthful.2 count (List.mem_cons_of_mem _ later)⟩, ?_⟩
    rintro count rfl
    exact truthful.2 count List.mem_cons_self

/-- Using up the script adds no claims to it. -/
theorem keeps_truthful : reading.Keeps Truthful where
  fill := by
    intro lent file truthful
    have next := truthful_nextRead truthful
    show (readInto lent file).2.Truthful
    unfold readInto
    generalize file.nextRead = taken at next ⊢
    rcases taken with ⟨prescription, after⟩
    cases prescription <;> exact next.1
  offer := by
    intro lent file truthful
    have next := truthful_nextWrite truthful
    show (write lent file).2.Truthful
    unfold write
    generalize file.nextWrite = taken at next ⊢
    rcases taken with ⟨prescription, after⟩
    cases prescription <;> exact next.1

/-- What is put into a buffer fits into it afterwards. -/
theorem put_inRange {lent : Lent} {data : Bytes} {count : Int}
    (moved : (lent.put data).reply = .moved count) :
    0 ≤ count ∧ count ≤ lent.sizeAfter (lent.put data) := by
  rcases lent with ⟨bytes, mutable⟩
  cases mutable with
  | false => cases moved
  | true =>
    cases moved
    have grown := Bytes.length_overStart data bytes
    simp only [Lent.sizeAfter, Lent.put_mutable, if_true]
    omega

theorem countsInRange : reading.CountsInRange Truthful where
  read := by
    intro lent file count truthful moved
    have next := truthful_nextRead truthful
    change (readInto lent file).1.reply = _ at moved
    show _ ∧ _ ≤ ((lent.sizeAfter (readInto lent file).1 : Nat) : Int)
    unfold readInto at moved ⊢
    generalize file.nextRead = taken at next moved ⊢
    rcases taken with ⟨prescription, after⟩
    cases prescription with
    | claim claimed => exact absurd rfl (next.2 claimed)
    | wouldBlock => cases moved
    | raise kind text => cases moved
    | everything => exact put_inRange moved
    | upTo limit => exact put_inRange moved
    | surplus data => exact put_inRange moved
  write := by
    intro lent file count truthful moved
    have next := truthful_nextWrite truthful
    change (write lent file).1 = _ at moved
    unfold write at moved
    generalize file.nextWrite = taken at next moved
    rcases taken with ⟨prescription, after⟩
    cases prescription with
    | claim claimed => exact absurd rfl (next.2 claimed)
    | wouldBlock => cases moved
    | raise kind text => cases moved
    | everything =>
      cases moved
      exact ⟨Int.natCast_nonneg _, Int.le_refl _⟩
    | surplus data =>
      cases moved
      exact ⟨Int.natCast_nonneg _, Int.le_refl _⟩
    | upTo limit =>
      cases moved
      exact ⟨Int.natCast_nonneg _, Int.ofNat_le.mpr (List.length_take_le' _ _)⟩

/-- It does not matter whether a script is followed by reading into a mutable
buffer or by handing bytes out. -/
theorem fetchesAlike : reading.FetchesAlike fetch Truthful true := by
  intro bytes file truthful
  have next := truthful_nextRead truthful
  show Stream.Fetch.Does ⟨bytes, true⟩ (fetch bytes.length file).1 (readInto ⟨bytes, true⟩ file).1 ∧
    (fetch bytes.length file).2 = (readInto ⟨bytes, true⟩ file).2
  unfold fetch readInto
  generalize file.nextRead = taken at next ⊢
  rcases taken with ⟨prescription, after⟩
  cases prescription with
  | claim claimed => exact absurd rfl (next.2 claimed)
  | wouldBlock => exact ⟨.wouldBlock, rfl⟩
  | raise kind text => exact ⟨.raised _, rfl⟩
  | everything => exact ⟨.bytes _ rfl, rfl⟩
  | upTo limit => exact ⟨.bytes _ rfl, rfl⟩
  | surplus data => exact ⟨.bytes data rfl, rfl⟩

end Scripted

namespace Errand

open Scripted in
/-- Two bytes, nothing at present, a failure, then the rest, and a write in
between, of which one byte is taken: the counts are those of what has moved. -/
theorem local_stream_is_transparent_scripted :
    let file : Scripted :=
      ⟨[1, 2, 3], [.upTo 2, .wouldBlock, .raise "OSError" "broken"], [.upTo 1], .empty, 0, 0⟩
    let memory : Memory := { Memory.empty with cells := #[[0, 0, 0], [0, 0]] }
    let into (index : Nat) (held : memory.Holds ⟨index⟩) : Errand :=
      ⟨memory, ⟨.read, .request (.shared ⟨index⟩)⟩, by rintro _ ⟨⟩; exact held⟩
    let errands : List Errand :=
      [into 0 Nat.zero_lt_two, into 0 Nat.zero_lt_two, into 1 Nat.one_lt_two,
        ⟨memory, ⟨.write, .request (.frozen [7, 8])⟩, by rintro _ ⟨⟩⟩,
        ⟨memory, ⟨.read, .response ⟨.frozen [9], 1⟩⟩, by rintro _ ⟨⟩⟩, into 1 Nat.one_lt_two]
    let direct := performAll reading errands file
    let wrapped := performAll (LocalFile.stream .blocking reading) errands (.fresh false, file)
    (direct.1.map (fun result => match result.1 with
        | .ok ⟨_, .response output⟩ => some output.count
        | _ => none) = [some 2, none, none, some 1, some 1, some 1]) ∧
      wrapped.1 = direct.1 ∧ wrapped.2.1.bytesRead = 3 ∧ wrapped.2.1.bytesWritten = 1 ∧
      performAll (reading.fetchingWith fetch) errands file = direct ∧
      performAll (LocalFile.stream .blocking (reading.fetchingWith fetch)) errands
        (.fresh false, file) = wrapped := by
  intro file memory into errands direct wrapped
  have truthful : file.Truthful := by
    constructor <;> simp [file]
  have mutable : ∀ mutable, Lends errands mutable -> reading.FetchesAlike fetch Truthful mutable := by
    rintro mutable ⟨errand, among, buffer, asked, rfl⟩
    simp only [errands, into, List.mem_cons, List.not_mem_nil, or_false] at among
    rcases among with rfl | rfl | rfl | rfl | rfl | rfl <;> cases asked
    all_goals exact fetchesAlike
  rcases local_stream_is_transparent reading rfl Truthful keeps_truthful false errands file
    truthful with ⟨⟨same, _⟩, counts, alike⟩
  rcases counts countsInRange with ⟨read, written⟩
  rcases alike fetch mutable with ⟨first, second⟩
  have moved : responded .read errands direct.1 = 3 ∧ responded .write errands direct.1 = 1 := by
    decide
  rw [moved.1] at read
  rw [moved.2] at written
  exact ⟨by decide, same, read, written, first, second⟩

end Errand

end ResumableStreams
