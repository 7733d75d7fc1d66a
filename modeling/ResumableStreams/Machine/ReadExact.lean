import ResumableStreams.Machine.Read

namespace ResumableStreams

/-!
# Reading an exact number of bytes

A `ReadExact` repeats a `Read` until it has its target number of bytes.  The
buffer it lends is never longer than what is still missing, so bytes past the
target stay in the stream.  Every call of the machine makes at most two steps
of the inner one: taking an answer, and asking for more.
-/

/-- The machine that reads exactly `target` bytes. -/
structure ReadExact where
  target : Nat
  read : Read
  collected : Collected

namespace ReadExact

/-- A machine for positive arguments, with an inner buffer of the smaller of
the two. -/
def create (target capacity : Nat) (memory : Memory) : ReadExact × Memory :=
  let (read, memory) := Read.create (min capacity target) memory
  (⟨target, read, .empty⟩, memory)

/-- Build a machine.  The target must not be negative, and the capacity must
be positive unless nothing is to be read. -/
def make (target capacity : Int) (memory : Memory) : Construction ReadExact :=
  if target < 0 then ⟨.error (.negativeTarget target), memory, []⟩
  else if capacity ≤ 0 ∧ target > 0 then ⟨.error (.capacityNotPositive capacity), memory, []⟩
  else
    let inner := Read.make (min capacity target) memory
    ⟨inner.result.map fun read => ⟨target.toNat, read, .empty⟩, inner.memory,
      .readExactCreated target.toNat capacity :: inner.events⟩

/-- Seed bytes that are already known.  They count toward the target. -/
def extend (machine : ReadExact) (bytes : Bytes) : ReadExact :=
  { machine with collected := machine.collected.append bytes }

def remaining (machine : ReadExact) : Nat := machine.target - machine.collected.size

def Complete (machine : ReadExact) : Prop := machine.target ≤ machine.collected.size

instance (machine : ReadExact) : Decidable machine.Complete :=
  inferInstanceAs (Decidable (machine.target ≤ machine.collected.size))

/-- Hand all collected bytes over and start again with none. -/
def finish (machine : ReadExact) (memory : Memory) : Step ReadExact Bytes :=
  ⟨.finished machine.collected.bytes, { machine with collected := .empty }, memory, []⟩

/-- The inner machine, with its buffer no longer than what is missing. -/
def trimmed (machine : ReadExact) (memory : Memory) : Read × Memory :=
  if machine.remaining < machine.read.capacity then
    machine.read.truncate machine.remaining memory
  else (machine.read, memory)

/-- The buffer may be shortened whether or not it is longer. -/
theorem trimmed_eq_truncate (machine : ReadExact) (memory : Memory) :
    machine.trimmed memory = machine.read.truncate machine.remaining memory := by
  unfold trimmed
  split
  · rfl
  · rename_i long
    exact (Read.truncate_of_le (Nat.le_of_not_lt long) memory).symm

/-- Take the bytes of an output, and its buffer back for the next request. -/
def absorb (machine : ReadExact) (output : Output) (memory : Memory) : ReadExact × Memory :=
  let collected := machine.collected.append (output.bytes memory)
  let (read, memory) := machine.read.replace output.buffer memory
  ({ machine with read := read, collected := collected }, memory)

/-- Ask for more bytes, unless the target has been reached. -/
def request (machine : ReadExact) (memory : Memory) : Step ReadExact Bytes :=
  if machine.Complete then machine.finish memory
  else
    let (read, memory) := machine.trimmed memory
    let (exchange, read, memory) := read.request memory
    ⟨.needs exchange, { machine with read := read }, memory,
      [.remainingToRead machine.remaining, .readRequested]⟩

/-- Take an exchange as the answer to the last request.  Once the target has
been reached, the exchange is not looked at.  The end of the stream is an
error that carries the bytes collected so far.  They have left the machine
before the error is built, so they are lost where it cannot be. -/
def receive (machine : ReadExact) (exchange : Exchange) (memory : Memory) :
    Step ReadExact Bytes :=
  if machine.Complete then machine.finish memory
  else
    let (read, memory) := machine.trimmed memory
    let inner := read.receive exchange memory
    let events := .remainingToRead machine.remaining :: inner.events
    let machine := { machine with read := inner.machine }
    match inner.progress with
    | .needs exchange => ⟨.needs exchange, machine, inner.memory, events⟩
    | .failed error => ⟨.failed (.wrap .readExact error), machine, inner.memory, events⟩
    | .raised fault => ⟨.raised fault, machine, inner.memory, events⟩
    | .endOfStream =>
      ⟨.reporting
          (.unexpectedEnd machine.remaining machine.target (.frozen machine.collected.bytes)),
        { machine with collected := .empty }, inner.memory, events⟩
    | .finished output =>
      let (machine, memory) := machine.absorb output inner.memory
      (machine.request memory).after events

/-- The error for the end of the stream shows the target and a part of it. -/
theorem reporting_shortage (machine : ReadExact) (partialBytes : Buffer) :
    (Progress.reporting
        (.unexpectedEnd machine.remaining machine.target partialBytes) : Progress Bytes) =
      if Text.Writable machine.target then
        .failed (.unexpectedEnd machine.remaining machine.target partialBytes)
      else .raised .overlongInteger :=
  Progress.reporting_unexpectedEnd (Nat.sub_le _ _) partialBytes

def resume (machine : ReadExact) (answer : Option Exchange) (memory : Memory) :
    Step ReadExact Bytes :=
  match answer with
  | none => machine.request memory
  | some exchange => machine.receive exchange memory

instance : Resumable ReadExact Bytes := ⟨resume⟩

end ReadExact

end ResumableStreams
