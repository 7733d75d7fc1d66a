import ResumableStreams.Machine.Step

namespace ResumableStreams

/-!
# Writing once

A `Write` hands its whole payload out in one request and holds nothing
afterwards.  How much of the payload the stream took is reported as it is;
offering the rest again is the business of `WriteAll`.
-/

/-- The machine that offers its payload once. -/
structure Write where
  /-- The bytes to be offered by the next request. -/
  payload : Buffer
  deriving DecidableEq

namespace Write

def make (payload : Buffer) (memory : Memory) : Write × List Event :=
  (⟨payload⟩, [.writeCreated (payload.size memory)])

/-- Take up a new payload. -/
def replace (_write : Write) (payload : Buffer) (memory : Memory) : Write × List Event :=
  (⟨payload⟩, [.writePrepared (payload.size memory)])

/-- Hand the payload out with a request.  The next request is empty unless the
payload is replaced. -/
def request (write : Write) : Exchange × Write :=
  (⟨.write, .request write.payload⟩, ⟨.frozen []⟩)

/-- Take an exchange as the answer to the last request.  A request is handed
out again as it is, and a response without bytes is the end of the stream. -/
def receive (write : Write) (exchange : Exchange) (memory : Memory) : Step Write Output :=
  match exchange with
  | ⟨.read, _⟩ =>
    ⟨.failed (.invalidArgument "write output" exchange (exchange.describe memory)), write, memory,
      [.writeResumed]⟩
  | ⟨.write, .request _⟩ => ⟨.needs exchange, write, memory, [.writeResumed]⟩
  | ⟨.write, .response output⟩ =>
    if output.count = 0 then ⟨.endOfStream, write, memory, [.writeResumed]⟩
    else ⟨.finished output, write, memory, [.writeResumed, .writeCompleted output.count]⟩

theorem receive_request (write : Write) (buffer : Buffer) (memory : Memory) :
    write.receive ⟨.write, .request buffer⟩ memory =
      ⟨.needs ⟨.write, .request buffer⟩, write, memory, [.writeResumed]⟩ := rfl

def resume (write : Write) (answer : Option Exchange) (memory : Memory) : Step Write Output :=
  match answer with
  | none =>
    let (exchange, write) := write.request
    ⟨.needs exchange, write, memory, [.writeRequested]⟩
  | some exchange => write.receive exchange memory

instance : Resumable Write Output := ⟨resume⟩

end Write

end ResumableStreams
