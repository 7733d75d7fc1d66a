import ResumableStreams.Stream

namespace ResumableStreams

/-!
# Performing one exchange

A runtime performs the request of a machine on a stream and gives the
response back.  A response is given back as it is, and so is a request that
would block, so that performing either again does no harm.  A reply is
believed only if its count lies within the buffer.
-/

/-- Everything that performing an exchange may look at or change. -/
structure Context (State : Type) where
  memory : Memory
  journal : Array Event
  state : State

namespace Context

variable {State : Type}

/-- Add events to the journal. -/
def note (context : Context State) (events : List Event) : Context State :=
  { context with journal := context.journal ++ events }

/-- Read from a stream into a buffer.  A stream that is lent immutable bytes
cannot have changed them. -/
def readInto (context : Context State) (concurrency : Concurrency) (stream : Stream State)
    (buffer : Buffer) : Reply × Context State :=
  match buffer with
  | .frozen bytes =>
    let (filling, state) := stream.fill concurrency ⟨bytes, false⟩ context.state
    (filling.reply, { (context.note filling.events) with state := state })
  | .shared cell =>
    let (filling, state) :=
      stream.fill concurrency ⟨context.memory.contents cell, true⟩ context.state
    (filling.reply,
      { (context.note filling.events) with
        memory := context.memory.store cell filling.contents, state := state })

/-- Write the contents of a buffer to a stream. -/
def writeFrom (context : Context State) (concurrency : Concurrency) (stream : Stream State)
    (buffer : Buffer) : Reply × Context State :=
  let (reply, state) :=
    stream.offer concurrency ⟨buffer.bytes context.memory, buffer.isMutable⟩ context.state
  (reply, { context with state := state })

end Context

/-- The answer to a request for which a stream has given a reply. -/
def Exchange.answer (request : Exchange) (buffer : Buffer) (reply : Reply) (memory : Memory) :
    Except Fault Exchange :=
  match reply with
  | .wouldBlock => .ok request
  | .raised fault => .error fault
  | .moved count =>
    (Output.make buffer count memory).map fun output => ⟨request.direction, .response output⟩

/-- Perform an exchange on a stream. -/
def handle {State : Type} (concurrency : Concurrency) (stream : Stream State)
    (exchange : Exchange) (context : Context State) : Except Fault Exchange × Context State :=
  match exchange with
  | ⟨_, .response _⟩ => (.ok exchange, context)
  | ⟨.read, .request buffer⟩ =>
    let (reply, context) :=
      (context.note [.readingFrom concurrency]).readInto concurrency stream buffer
    (exchange.answer buffer reply context.memory, context)
  | ⟨.write, .request buffer⟩ =>
    let (reply, context) := 
      (context.note [.writingTo concurrency]).writeFrom concurrency stream buffer
    (exchange.answer buffer reply context.memory, context)

/-- A response is given back as it is. -/
@[simp] theorem handle_response {State : Type} (concurrency : Concurrency)
    (stream : Stream State) (direction : Direction) (output : Output) (context : Context State) :
    handle concurrency stream ⟨direction, .response output⟩ context =
      (.ok ⟨direction, .response output⟩, context) := by
  cases direction <;> rfl

/-- An answer is the request itself, or a response that goes the same way. -/
theorem Exchange.direction_answer {request answer : Exchange} {buffer : Buffer} {reply : Reply}
    {memory : Memory} (given : request.answer buffer reply memory = .ok answer) :
    answer.direction = request.direction := by
  cases reply with
  | wouldBlock =>
    cases given
    rfl
  | raised fault => cases given
  | moved count =>
    cases made : Output.make buffer count memory with
    | error fault =>
      simp only [Exchange.answer, made] at given
      cases given
    | ok output =>
      simp only [Exchange.answer, made] at given
      cases given
      rfl

end ResumableStreams
