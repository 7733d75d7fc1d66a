import ResumableStreams.Proofs.Driving
import ResumableStreams.Stream.MemoryFile
import ResumableStreams.Stream.Scripted

namespace ResumableStreams

/-!
# Streams that give what they hold

A stream may give its bytes in pieces of any size, chosen anew at each read,
as long as it gives at least one while it has any.  This is all that a machine
may rely on, and it is what a `Supply` records of a stream.  It says nothing
about reads into an empty buffer, which could not be told from the end, and
nothing about the part of a buffer behind the bytes delivered.
-/

/-- A read of a stream that still has `rest` to give has put the next `count`
bytes at the start of the buffer.  Nothing is delivered only at the end. -/
structure Filling.Delivers (filling : Filling) (contents rest : Bytes) (count : Nat) : Prop where
  reply : filling.reply = .moved count
  length : filling.contents.length = contents.length
  start : filling.contents.take count = rest.take count
  count_le_length : count ≤ contents.length
  count_le_rest : count ≤ rest.length
  exhausted : count = 0 -> rest = []

/-- Bytes over the start of a buffer that are the next delivers them. -/
theorem Filling.delivers_overStart {contents rest data left : Bytes} {events : List Event}
    (pieces : rest = data ++ left) (fits : data.length ≤ contents.length)
    (ends : data = [] -> rest = []) :
    (Filling.mk (Bytes.overStart data contents) (.moved data.length) events).Delivers contents rest
      data.length where
  reply := rfl
  length := Bytes.length_overStart_of_le fits
  start := by rw [Bytes.take_overStart, pieces, List.take_left]
  count_le_length := fits
  count_le_rest := by
    rw [pieces, List.length_append]
    exact Nat.le_add_right _ _
  exhausted := fun nothing => ends (List.length_eq_zero_iff.mp nothing)

/-- Putting the next bytes over the start of a buffer, as many as there are
but at most a positive number, delivers them. -/
theorem Filling.delivers_put {contents rest : Bytes} {most : Nat} (positive : 0 < most)
    (fits : most ≤ contents.length) :
    ((⟨contents, true⟩ : Lent).put (rest.take most)).Delivers contents rest
      (min most rest.length) := by
  have size : (rest.take most).length = min most rest.length := List.length_take
  rw [Lent.put_mutable, ← size]
  refine delivers_overStart (List.take_append_drop most rest).symm (by omega) fun nothing => ?_
  have none_taken := congrArg List.length nothing
  rw [size, List.length_nil] at none_taken
  exact List.length_eq_zero_iff.mp (by omega)

namespace Stream

variable {Machine Value State : Type} {stream : Stream State} {concurrency : Concurrency}

/-- A runtime that performs a read answers with the bytes delivered. -/
theorem exists_handle_of_delivers {context : Context State} {cell : Cell}
    (held : context.memory.Holds cell) {filling : Filling} {state : State} {rest : Bytes}
    {count : Nat}
    (filled : stream.fill concurrency ⟨context.memory.contents cell, true⟩ context.state =
      (filling, state))
    (delivered : filling.Delivers (context.memory.contents cell) rest count) :
    ∃ after, handle concurrency stream ⟨.read, .request (.shared cell)⟩ context =
        (.ok ⟨.read, .response ⟨.shared cell, count⟩⟩, after) ∧ after.state = state ∧
      after.memory.Holds cell ∧ after.memory.contents cell = filling.contents := by
  have replied : filling.reply = .moved count := delivered.reply
  have stored : (context.memory.store cell filling.contents).contents cell = filling.contents :=
    Memory.contents_store_self held _
  have fits : count ≤ (Buffer.shared cell).size (context.memory.store cell filling.contents) := by
    rw [Buffer.size, Buffer.bytes_shared, stored, delivered.length]
    exact delivered.count_le_length
  refine ⟨{ (context.note [.readingFrom concurrency]).note filling.events with
    memory := context.memory.store cell filling.contents, state := state }, ?_, rfl, ?_, stored⟩
  · simp only [handle, Context.readInto, Context.note, filled, replied,
      Exchange.answer_moved _ fits]
  · exact (Memory.holds_store_iff _ _ _ _).mpr held

/-- A runtime that performs a read passes the failure of the stream on. -/
theorem exists_handle_of_raised {context : Context State} {cell : Cell} {filling : Filling}
    {state : State} {fault : Fault}
    (filled : stream.fill concurrency ⟨context.memory.contents cell, true⟩ context.state =
      (filling, state))
    (raised : filling.reply = .raised fault) :
    ∃ after, handle concurrency stream ⟨.read, .request (.shared cell)⟩ context =
        (.error fault, after) ∧ after.state = state := by
  refine ⟨{ (context.note [.readingFrom concurrency]).note filling.events with
    memory := context.memory.store cell filling.contents, state := state }, ?_, rfl⟩
  simp only [handle, Context.readInto, Context.note, filled, raised, Exchange.answer]

/-- What a stream still has to give in each state in which it may be read. -/
structure Supply (stream : Stream State) (concurrency : Concurrency) where
  Ready : State -> Prop
  rest : State -> Bytes
  fill : ∀ contents state, Ready state -> contents ≠ [] ->
    Ready (stream.fill concurrency ⟨contents, true⟩ state).2 ∧
      ∃ count,
        (stream.fill concurrency ⟨contents, true⟩ state).1.Delivers contents (rest state) count ∧
        rest (stream.fill concurrency ⟨contents, true⟩ state).2 = (rest state).drop count

namespace Supply

/-- The runtime has performed a read into a buffer, and `count` bytes have
moved there from the stream. -/
structure Performed (supply : stream.Supply concurrency) (cell : Cell)
    (before after : Context State) (count : Nat) : Prop where
  ready : supply.Ready after.state
  rest : supply.rest after.state = (supply.rest before.state).drop count
  held : after.memory.Holds cell
  length : (after.memory.contents cell).length = (before.memory.contents cell).length
  start : (after.memory.contents cell).take count = (supply.rest before.state).take count
  count_le_length : count ≤ (before.memory.contents cell).length
  count_le_rest : count ≤ (supply.rest before.state).length
  exhausted : count = 0 -> supply.rest before.state = []

theorem exists_handle (supply : stream.Supply concurrency) {context : Context State} {cell : Cell}
    (ready : supply.Ready context.state) (held : context.memory.Holds cell)
    (room : context.memory.contents cell ≠ []) :
    ∃ count after,
      handle concurrency stream ⟨.read, .request (.shared cell)⟩ context =
        (.ok ⟨.read, .response ⟨.shared cell, count⟩⟩, after) ∧
      supply.Performed cell context after count := by
  rcases supply.fill _ context.state ready room with ⟨readyAfter, count, delivered, rest⟩
  cases filled : stream.fill concurrency ⟨context.memory.contents cell, true⟩ context.state with
  | mk filling state =>
    rw [filled] at readyAfter delivered rest
    rcases exists_handle_of_delivers held filled delivered with
      ⟨after, handled, state', heldAfter, stored⟩
    refine ⟨count, after, handled, ?_⟩
    exact
      { ready := state' ▸ readyAfter
        rest := state' ▸ rest
        held := heldAfter
        length := by rw [stored, delivered.length]
        start := by rw [stored, delivered.start]
        count_le_length := delivered.count_le_length
        count_le_rest := delivered.count_le_rest
        exhausted := delivered.exhausted }

/-- A machine that asks for bytes is resumed with some. -/
theorem exists_driveFrom [Resumable Machine Value] (supply : stream.Supply concurrency)
    {machine waiting : Machine} {answer : Option Exchange} {context : Context State} {cell : Cell}
    {memory : Memory} {events : List Event} (ready : supply.Ready context.state)
    (resumed : Resumable.resume machine answer context.memory =
      ⟨.needs ⟨.read, .request (.shared cell)⟩, waiting, memory, events⟩)
    (held : memory.Holds cell) (room : memory.contents cell ≠ []) (limit : Nat)
    (turns : List Turn) :
    ∃ count reached,
      supply.Performed cell (context.after memory events) reached count ∧
      driveFrom (handle concurrency stream) (limit + 1) machine answer context turns =
        driveFrom (handle concurrency stream) limit waiting
          (some ⟨.read, .response ⟨.shared cell, count⟩⟩) reached
          (⟨⟨.read, .request (.shared cell)⟩, (memory.contents cell).length, .moved count⟩ ::
            turns) := by
  have readyAfter : supply.Ready (context.after memory events).state := ready
  rcases supply.exists_handle readyAfter held room with ⟨count, reached, handled, performed⟩
  exact ⟨count, reached, performed, driveFrom_needs limit resumed handled⟩

end Supply

end Stream

/-! ## Files in memory -/

theorem MemoryFile.fill_eq_put (concurrency : Concurrency) {file : MemoryFile}
    (isOpen : file.closed = false) (contents : Bytes) :
    MemoryFile.stream.fill concurrency ⟨contents, true⟩ file =
      ((⟨contents, true⟩ : Lent).put (file.unread.take contents.length),
        file.advance (file.unread.take contents.length).length) := by
  cases concurrency <;>
    simp [Stream.fill, MemoryFile.stream, MemoryFile.readInto, MemoryFile.next, isOpen, Lent.size]

/-- An open file in memory gives what lies behind its position, as much as
fits. -/
def MemoryFile.supply (concurrency : Concurrency) : MemoryFile.stream.Supply concurrency where
  Ready file := file.closed = false
  rest := MemoryFile.unread
  fill := by
    intro contents file isOpen room
    rw [fill_eq_put concurrency isOpen]
    refine ⟨isOpen, min contents.length file.unread.length,
      Filling.delivers_put (List.length_pos_iff.mpr room) (Nat.le_refl _), ?_⟩
    rw [MemoryFile.unread_advance, List.length_take]

/-! ## Scripted streams -/

namespace Prescription

/-- A read as prescribed moves something if it can. -/
def isSteady : Prescription -> Bool
  | .everything => true
  | .upTo count => decide (0 < count)
  | _ => false

/-- The most that a read into a buffer of the given length moves. -/
def most (length : Nat) : Prescription -> Nat
  | .upTo count => min count.toNat length
  | _ => length

theorem most_le (length : Nat) (prescription : Prescription) :
    prescription.most length ≤ length := by
  cases prescription <;> simp only [most, Nat.le_refl, Nat.min_le_right]

theorem most_pos {length : Nat} {prescription : Prescription}
    (steady : prescription.isSteady = true) (room : 0 < length) : 0 < prescription.most length := by
  cases prescription with
  | upTo count =>
    have positive : 0 < count := of_decide_eq_true steady
    exact Nat.lt_min.mpr ⟨by omega, room⟩
  | _ => exact room

end Prescription

namespace Scripted

/-- Every read that is prescribed moves something if it can. -/
def IsSteady (stream : Scripted) : Prop := stream.reads.all Prescription.isSteady = true

def upcoming (stream : Scripted) : Prescription := stream.reads.headD .everything

theorem IsSteady.upcoming {stream : Scripted} (steady : stream.IsSteady) :
    stream.upcoming.isSteady = true := by
  unfold IsSteady at steady
  cases reads : stream.reads with
  | nil => simp only [Scripted.upcoming, reads, List.headD, Prescription.isSteady]
  | cons prescription reads' =>
    rw [reads, List.all_cons, Bool.and_eq_true] at steady
    simp only [Scripted.upcoming, reads, List.headD, steady.1]

/-- A steady prescription says nothing but how many bytes are moved. -/
theorem readInto_of_isSteady {stream : Scripted} (moves : stream.upcoming.isSteady = true)
    (lent : Lent) :
    stream.readInto lent =
      (lent.put (stream.remaining.take (stream.upcoming.most lent.size)),
        { stream with
          remaining := stream.remaining.drop (stream.upcoming.most lent.size)
          reads := stream.reads.tail
          calls := stream.calls + 1 }) := by
  unfold Scripted.upcoming at moves ⊢
  cases prescribed : stream.reads.headD .everything with
  | everything => simp only [readInto, nextRead, prescribed, take, Prescription.most]
  | upTo count => simp only [readInto, nextRead, prescribed, take, Prescription.most]
  | wouldBlock => rw [prescribed] at moves; cases moves
  | raise kind text => rw [prescribed] at moves; cases moves
  | claim count => rw [prescribed] at moves; cases moves
  | surplus data => rw [prescribed] at moves; cases moves

theorem fill_eq_readInto (made asked : Concurrency) {faces : Faces} (reads : faces.readInto = true)
    (lent : Lent) (stream : Scripted) :
    (Scripted.stream made faces).fill asked lent stream = stream.readInto lent := by
  cases asked <;> simp [Stream.fill, Scripted.stream, reads]

/-- A read with a steady prescription delivers the next bytes. -/
theorem exists_delivers {stream : Scripted} (moves : stream.upcoming.isSteady = true)
    {contents : Bytes} (room : contents ≠ []) :
    ∃ count, (stream.readInto ⟨contents, true⟩).1.Delivers contents stream.remaining count ∧
      (stream.readInto ⟨contents, true⟩).2.remaining = stream.remaining.drop count := by
  rw [readInto_of_isSteady moves]
  exact ⟨min (stream.upcoming.most contents.length) stream.remaining.length,
    Filling.delivers_put (Prescription.most_pos moves (List.length_pos_iff.mpr room))
      (stream.upcoming.most_le contents.length), List.drop_eq_drop_min⟩

/-- Every read takes one prescription off the script. -/
@[simp] theorem reads_readInto (stream : Scripted) (lent : Lent) :
    (stream.readInto lent).2.reads = stream.reads.tail := by
  simp only [readInto, nextRead]
  split <;> rfl

/-- A scripted stream whose script holds nothing back gives what remains. -/
def supply (made asked : Concurrency) (faces : Faces) (reads : faces.readInto = true) :
    (Scripted.stream made faces).Supply asked where
  Ready := IsSteady
  rest := Scripted.remaining
  fill := by
    intro contents stream steady room
    rw [fill_eq_readInto made asked reads]
    refine ⟨?_, exists_delivers steady.upcoming room⟩
    unfold IsSteady at steady ⊢
    rw [reads_readInto]
    cases prescribed : stream.reads with
    | nil => rfl
    | cons prescription rest =>
      rw [prescribed, List.all_cons, Bool.and_eq_true] at steady
      exact steady.2

end Scripted

end ResumableStreams
