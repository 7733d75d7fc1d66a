import ResumableStreams.Machine.Write

namespace ResumableStreams

/-!
# Writing everything

A `WriteAll` repeats a `Write` until the stream has taken every byte.  After
each partial write, what the stream did not take is offered again.  A stream
that takes nothing ends the machine with an error.
-/

/-- The machine that writes a whole payload. -/
structure WriteAll where
  total : Nat
  remaining : Nat
  write : Write
  deriving DecidableEq

namespace WriteAll

/-- Build a machine for the given payload.  Its total is the length of the
payload at this moment. -/
def make (payload : Buffer) (memory : Memory) : WriteAll × List Event :=
  let size := payload.size memory
  let (write, events) := Write.make payload memory
  (⟨size, size, write⟩, .writeAllCreated size :: events)

/-- Take up what is left of an output's buffer as the next payload. -/
def absorb (machine : WriteAll) (output : Output) (memory : Memory) :
    WriteAll × Memory × List Event :=
  let (rest, memory) := output.buffer.rest output.count memory
  let remaining := rest.size memory
  let (write, events) := machine.write.replace rest memory
  ({ machine with remaining := remaining, write := write }, memory,
    .remainingToWrite remaining :: events)

/-- Offer what remains, unless nothing does. -/
def request (machine : WriteAll) (memory : Memory) : Step WriteAll Nat :=
  if machine.remaining = 0 then ⟨.finished machine.total, machine, memory, []⟩
  else
    let (exchange, write) := machine.write.request
    ⟨.needs exchange, { machine with write := write }, memory, [.writeRequested]⟩

/-- Take an exchange as the answer to the last request.  Once nothing remains,
the exchange is not looked at.  The numbers of the error are lengths of buffers,
which never have too many digits. -/
def receive (machine : WriteAll) (exchange : Exchange) (memory : Memory) : Step WriteAll Nat :=
  if machine.remaining = 0 then ⟨.finished machine.total, machine, memory, []⟩
  else
    let inner := machine.write.receive exchange memory
    let machine := { machine with write := inner.machine }
    match inner.progress with
    | .needs exchange => ⟨.needs exchange, machine, inner.memory, inner.events⟩
    | .failed error => ⟨.failed (.wrap .writeAll error), machine, inner.memory, inner.events⟩
    | .raised fault => ⟨.raised fault, machine, inner.memory, inner.events⟩
    | .endOfStream =>
      ⟨.failed (.writeZero machine.remaining machine.total (machine.total - machine.remaining)),
        machine, inner.memory, inner.events⟩
    | .finished output =>
      let (machine, memory, events) := machine.absorb output inner.memory
      (machine.request memory).after (inner.events ++ events)

def resume (machine : WriteAll) (answer : Option Exchange) (memory : Memory) :
    Step WriteAll Nat :=
  match answer with
  | none => machine.request memory
  | some exchange => machine.receive exchange memory

instance : Resumable WriteAll Nat := ⟨resume⟩

end WriteAll

end ResumableStreams
