import ResumableStreams.Machine.Step

namespace ResumableStreams

/-!
# Reading once

A `Read` owns one buffer.  It lends the buffer out with its request, and holds
none while the request is under way.  The buffer comes back inside the
response: at the end of the stream the machine takes it back itself,
otherwise the caller may give it back with `Read.replace`.  A buffer that is
taken back is filled with zeros, so that nothing of its old contents can be
taken for data.
-/

/-- The machine that reads once into a buffer of its own. -/
structure Read where
  /-- The length of the next buffer to be lent. -/
  capacity : Nat
  /-- The buffer in hand.  It is absent while it is lent out. -/
  slot : Option Cell
  deriving DecidableEq

namespace Read

/-- The capacity where none is asked for. -/
def defaultCapacity : Nat := 8192

/-- A machine with a new buffer of zeros. -/
def create (capacity : Nat) (memory : Memory) : Read × Memory :=
  let (cell, memory) := memory.allocate (Bytes.zeros capacity)
  (⟨capacity, some cell⟩, memory)

/-- Build a machine for the given capacity, which must not be negative.  There
must be room for its buffer. -/
def make (capacity : Int) (memory : Memory) : Construction Read :=
  if capacity < 0 then ⟨.error (.negativeCapacity capacity), memory, []⟩
  else
    let events := [.readCreated capacity.toNat]
    match checkLength capacity.toNat memory.room with
    | .error fault => ⟨.error fault, memory, events⟩
    | .ok () =>
      let (read, memory) := create capacity.toNat memory
      ⟨.ok read, memory, events⟩

/-- Shorten the buffer to at most `length` bytes, a negative length counting
as zero.  A buffer that is lent out is not touched. -/
def truncate (read : Read) (length : Int) (memory : Memory) : Read × Memory :=
  if length < read.capacity then
    ({ read with capacity := length.toNat },
      match read.slot with
      | none => memory
      | some cell => memory.store cell ((memory.contents cell).take length.toNat))
  else (read, memory)

theorem truncate_of_le {read : Read} {length : Nat} (long : read.capacity ≤ length)
    (memory : Memory) : read.truncate length memory = (read, memory) :=
  if_neg (by omega)

theorem truncate_of_lt {read : Read} {length : Nat} (short : length < read.capacity)
    (memory : Memory) :
    read.truncate length memory = ({ read with capacity := length },
      match read.slot with
      | none => memory
      | some cell => memory.store cell ((memory.contents cell).take length)) :=
  if_pos (Int.ofNat_lt.mpr short)

/-- Install a buffer of the caller's choosing.  A mutable buffer is filled
with zeros and kept; for immutable bytes a new buffer of their length is
made. -/
def replace (read : Read) (buffer : Buffer) (memory : Memory) : Read × Memory :=
  let zeros := Bytes.zeros (buffer.size memory)
  let (cell, memory) := match buffer with
    | .shared cell => (cell, memory.store cell zeros)
    | .frozen _ => memory.allocate zeros
  ({ read with capacity := zeros.length, slot := some cell }, memory)

/-- Lend the buffer out with a request.  Where none is in hand, a new one of
the configured capacity is lent. -/
def request (read : Read) (memory : Memory) : Exchange × Read × Memory :=
  let (cell, memory) := match read.slot with
    | some cell => (cell, memory)
    | none => memory.allocate (Bytes.zeros read.capacity)
  (⟨.read, .request (.shared cell)⟩, { read with slot := none }, memory)

/-- Take an exchange as the answer to the last request.  A request is handed
out again as it is.  A response without bytes is the end of the stream, and
its buffer is taken back. -/
def receive (read : Read) (exchange : Exchange) (memory : Memory) : Step Read Output :=
  match exchange with
  | ⟨.write, _⟩ =>
    ⟨.failed (.invalidArgument "read output" exchange (exchange.describe memory)), read, memory,
      [.readResumed]⟩
  | ⟨.read, .request _⟩ => ⟨.needs exchange, read, memory, [.readResumed]⟩
  | ⟨.read, .response output⟩ =>
    if output.count = 0 then
      let (read, memory) := read.replace output.buffer memory
      ⟨.endOfStream, read, memory, [.readResumed]⟩
    else
      ⟨.finished output, read, memory,
        [.readResumed, .readCompleted output.count (output.buffer.size memory)]⟩

/-- A request comes out again as it went in, and nothing else changes. -/
theorem receive_request (read : Read) (buffer : Buffer) (memory : Memory) :
    read.receive ⟨.read, .request buffer⟩ memory =
      ⟨.needs ⟨.read, .request buffer⟩, read, memory, [.readResumed]⟩ := rfl

def resume (read : Read) (answer : Option Exchange) (memory : Memory) : Step Read Output :=
  match answer with
  | none =>
    let (exchange, read, memory) := read.request memory
    ⟨.needs exchange, read, memory, [.readRequested]⟩
  | some exchange => read.receive exchange memory

instance : Resumable Read Output := ⟨resume⟩

/-- A short description: the capacity, and whether the buffer is in hand. -/
def describe (read : Read) : String :=
  let state := if read.slot.isNone then "suspended" else "ready"
  s!"<Read capacity={read.capacity} {state}>"

end Read

end ResumableStreams
