import ResumableStreams.Machine.Read

namespace ResumableStreams

/-!
# Reading to the end

A `ReadToEnd` repeats a `Read` and collects everything until the stream ends.
Its result is handed over then, and the machine starts again with nothing.
-/

/-- The machine that reads until the stream ends. -/
structure ReadToEnd where
  read : Read
  collected : Collected

namespace ReadToEnd

/-- A machine with an inner buffer of the given capacity. -/
def create (capacity : Nat) (memory : Memory) : ReadToEnd × Memory :=
  let (read, memory) := Read.create capacity memory
  (⟨read, .empty⟩, memory)

/-- Build a machine.  The capacity must be positive: a buffer without room
could not be told from the end of the stream. -/
def make (capacity : Int) (memory : Memory) : Construction ReadToEnd :=
  if capacity ≤ 0 then ⟨.error (.capacityNotPositive capacity), memory, []⟩
  else
    let inner := Read.make capacity memory
    ⟨inner.result.map fun read => ⟨read, .empty⟩, inner.memory,
      .readToEndCreated capacity.toNat :: inner.events⟩

/-- Seed bytes that are already known. -/
def extend (machine : ReadToEnd) (bytes : Bytes) : ReadToEnd :=
  { machine with collected := machine.collected.append bytes }

/-- Take the bytes of an output, and its buffer back for the next request. -/
def absorb (machine : ReadToEnd) (output : Output) (memory : Memory) : ReadToEnd × Memory :=
  let collected := machine.collected.append (output.bytes memory)
  let (read, memory) := machine.read.replace output.buffer memory
  ({ machine with read := read, collected := collected }, memory)

def request (machine : ReadToEnd) (memory : Memory) : Step ReadToEnd Bytes :=
  let (exchange, read, memory) := machine.read.request memory
  ⟨.needs exchange, { machine with read := read }, memory, [.readRequested]⟩

/-- Take an exchange as the answer to the last request.  The end of the stream
is the success of this machine. -/
def receive (machine : ReadToEnd) (exchange : Exchange) (memory : Memory) :
    Step ReadToEnd Bytes :=
  let inner := machine.read.receive exchange memory
  let machine := { machine with read := inner.machine }
  match inner.progress with
  | .needs exchange => ⟨.needs exchange, machine, inner.memory, inner.events⟩
  | .failed error => ⟨.failed (.wrap .readToEnd error), machine, inner.memory, inner.events⟩
  | .raised fault => ⟨.raised fault, machine, inner.memory, inner.events⟩
  | .endOfStream =>
    ⟨.finished machine.collected.bytes, { machine with collected := .empty }, inner.memory,
      inner.events⟩
  | .finished output =>
    let (machine, memory) := machine.absorb output inner.memory
    (machine.request memory).after inner.events

def resume (machine : ReadToEnd) (answer : Option Exchange) (memory : Memory) :
    Step ReadToEnd Bytes :=
  match answer with
  | none => machine.request memory
  | some exchange => machine.receive exchange memory

instance : Resumable ReadToEnd Bytes := ⟨resume⟩

end ReadToEnd

end ResumableStreams
