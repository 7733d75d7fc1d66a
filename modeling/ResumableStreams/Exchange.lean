import ResumableStreams.Memory

namespace ResumableStreams

/-!
# Requests and responses

A machine never touches a stream.  It hands out a request, which carries the
buffer to fill or to drain, and is resumed with the response, which carries
the same buffer and the number of bytes that moved.  Both are an `Exchange`.

A runtime that could not move anything hands the request itself back, so a
machine may be resumed with a request as well.
-/

/-- Which way the bytes move. -/
inductive Direction where
  | read
  | write
  deriving DecidableEq

def Direction.word : Direction -> String
  | .read => "read"
  | .write => "write"

/-- The result of a read or a write: the buffer used, and how many bytes
moved.  The count was within the buffer when the output was made; the buffer
may have been shortened since. -/
structure Output where
  buffer : Buffer
  count : Nat
  deriving DecidableEq

/-- The bytes that moved, as the buffer holds them at present. -/
def Output.bytes (output : Output) (memory : Memory) : Bytes :=
  (output.buffer.bytes memory).take output.count

theorem Output.length_bytes_le (output : Output) (memory : Memory) :
    (output.bytes memory).length ≤ output.count := by
  simp only [Output.bytes, List.length_take]
  omega

/-- A request carries a buffer, a response an output. -/
inductive Payload where
  | request (buffer : Buffer)
  | response (output : Output)
  deriving DecidableEq

/-- A read or write, requested or performed. -/
structure Exchange where
  direction : Direction
  payload : Payload
  deriving DecidableEq

namespace Exchange

def isResponse (exchange : Exchange) : Bool :=
  match exchange.payload with
  | .request _ => false
  | .response _ => true

/-- The buffer of the request or of the output. -/
def carried (exchange : Exchange) : Buffer :=
  match exchange.payload with
  | .request buffer => buffer
  | .response output => output.buffer

/-- A short description that does not show the contents. -/
def describe (exchange : Exchange) (memory : Memory) : String :=
  let word := exchange.direction.word
  match exchange.payload with
  | .request buffer => s!"<StreamIo {word} request ({buffer.size memory} bytes)>"
  | .response output =>
    s!"<StreamIo {word} response ({output.count}/{output.buffer.size memory} bytes)>"

end Exchange

/-!
## Equality by contents

Two buffers count as alike if they hold the same bytes, whether or not either
is mutable.  Being alike does not make them the same buffer.  Everything built
from buffers is compared in the same way.
-/

namespace Buffer

/-- Both buffers hold the same bytes at present. -/
def alike (left right : Buffer) (memory : Memory) : Bool :=
  left.bytes memory == right.bytes memory

end Buffer

/-- Both outputs have the same count and like buffers. -/
def Output.alike (left right : Output) (memory : Memory) : Bool :=
  left.count == right.count && left.buffer.alike right.buffer memory

/-- Both exchanges go the same way and carry like payloads.  A request is
never like a response. -/
def Exchange.alike (left right : Exchange) (memory : Memory) : Bool :=
  left.direction == right.direction &&
    match left.payload, right.payload with
    | .request first, .request second => first.alike second memory
    | .response first, .response second => first.alike second memory
    | _, _ => false

/-- What a caller may compare: nothing, an exchange, an output, a buffer, a
number, how far a machine came, or anything else by its name. -/
inductive Item where
  | nothing
  | exchange (exchange : Exchange)
  | output (output : Output)
  | buffer (buffer : Buffer)
  | number (number : Int)
  /-- Something that is like nothing but itself. -/
  | named (name : String)
  | finished (item : Item)
  | needs (item : Item)
  | endOfStream

/-- Both items are of one kind and alike in what they are made of. -/
def Item.alike (memory : Memory) : Item -> Item -> Bool
  | .nothing, .nothing => true
  | .exchange left, .exchange right => left.alike right memory
  | .output left, .output right => left.alike right memory
  | .buffer left, .buffer right => left.alike right memory
  | .number left, .number right => left == right
  | .named left, .named right => left == right
  | .finished left, .finished right => left.alike memory right
  | .needs left, .needs right => left.alike memory right
  | .endOfStream, .endOfStream => true
  | _, _ => false

end ResumableStreams
