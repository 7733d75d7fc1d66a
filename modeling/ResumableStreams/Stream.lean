import ResumableStreams.Machine.Step

namespace ResumableStreams

/-!
# Streams

A stream is whatever a runtime can read from or write to.  It is given by its
operations, as functions of a state.  The state holds the stream itself and
everything else that its operations may change.  A stream need not have all
operations, and those that it has may reply anything: a runtime checks what
it is told.

Most streams read into a buffer they are lent.  Some can only hand out bytes
of their own; the blocking runtime then copies them into the buffer.  Sockets
have operations of their own, which only the blocking runtime knows.
-/

/-- A buffer as it is lent to a stream: what it holds, and whether that may be
changed. -/
structure Lent where
  bytes : Bytes
  mutable : Bool

/-- What a read or a write replies. -/
inductive Reply where
  /-- This many bytes are said to have moved. -/
  | moved (count : Int)
  /-- Nothing can be moved at present. -/
  | wouldBlock
  /-- The operation failed. -/
  | raised (fault : Fault)

/-- The result of reading into a buffer: what the buffer holds afterwards, the
reply, and the events noted.  Of immutable bytes the contents are not looked
at. -/
structure Filling where
  contents : Bytes
  reply : Reply
  events : List Event

namespace Lent

/-- The number of bytes in the buffer. -/
def size (lent : Lent) : Nat := lent.bytes.length

/-- Leave the buffer as it is, and reply. -/
def untouched (lent : Lent) (reply : Reply) : Filling := ⟨lent.bytes, reply, []⟩

/-- Put bytes over the start of the buffer and reply their number.  Immutable
bytes cannot be changed, not even by no bytes. -/
def put (lent : Lent) (data : Bytes) : Filling :=
  if lent.mutable then ⟨Bytes.overStart data lent.bytes, .moved data.length, []⟩
  else lent.untouched (.raised .immutableBytes)

/-- What can be changed takes the bytes. -/
@[simp] theorem put_mutable (contents data : Bytes) :
    (⟨contents, true⟩ : Lent).put data =
      ⟨Bytes.overStart data contents, .moved data.length, []⟩ := rfl

end Lent

/-- The result of asking a stream for bytes of its own. -/
inductive Fetch where
  | bytes (data : Bytes)
  /-- Characters came instead of bytes. -/
  | characters (count : Nat)
  | wouldBlock
  | raised (fault : Fault)

/-- The operations of a stream over states of type `State`. -/
structure Stream (State : Type) where
  /-- What messages call the stream. -/
  kind : String
  /-- The runtime for which the operations are made. -/
  concurrency : Concurrency := .blocking
  /-- Receive into a buffer, as a socket does. -/
  receive : Option (Lent -> State -> Filling × State) := none
  /-- Send bytes, as a socket does. -/
  send : Option (Lent -> State -> Reply × State) := none
  /-- Read into a buffer. -/
  readInto : Option (Lent -> State -> Filling × State) := none
  /-- Hand out at most the given number of bytes. -/
  fetch : Option (Nat -> State -> Fetch × State) := none
  /-- Take as many of the given bytes as possible. -/
  write : Option (Lent -> State -> Reply × State) := none
  flush : Option (State -> Option Fault × State) := none
  close : Option (State -> Option Fault × State) := none

namespace Stream

variable {State Outer : Type}

/-- Something that can be read from or written to can stand for a file. -/
def isFile (stream : Stream State) : Bool := stream.fetch.isSome || stream.write.isSome

/-- Copy what was fetched over the start of a buffer, unless nothing came.
Nothing stops a stream from fetching more than it was asked for; the buffer
then grows.  Characters are no bytes. -/
def Fetch.copyInto (lent : Lent) : Fetch -> Filling
  | .bytes [] | .characters 0 => lent.untouched (.moved 0)
  | .bytes data => lent.put data
  | .characters _ =>
    lent.untouched (.raised (if lent.mutable then .charactersForBytes else .immutableBytes))
  | .wouldBlock => lent.untouched .wouldBlock
  | .raised fault => lent.untouched (.raised fault)

/-- Read into a buffer by fetching bytes and copying them. -/
def fillByFetching (stream : Stream State) (lent : Lent) (state : State) : Filling × State :=
  match stream.fetch with
  | none => (lent.untouched (.raised (.lacks stream.kind "read")), state)
  | some fetch =>
    let (fetched, state) := fetch lent.size state
    (Fetch.copyInto lent fetched, state)

/-- Read into a buffer in the way that a runtime uses.  Only the blocking one
receives from sockets, and falls back on fetching where a stream cannot read
into a buffer. -/
def fill (stream : Stream State) (concurrency : Concurrency) (lent : Lent)
    (state : State) : Filling × State :=
  match concurrency with
  | .blocking =>
    match stream.receive <|> stream.readInto with
    | some readInto => readInto lent state
    | none => stream.fillByFetching lent state
  | .asynchronous =>
    match stream.readInto with
    | some readInto => readInto lent state
    | none => (lent.untouched (.raised (.lacks stream.kind "readinto")), state)

/-- Offer bytes to a stream in the way that a runtime uses. -/
def offer (stream : Stream State) (concurrency : Concurrency) (lent : Lent) (state : State) :
    Reply × State :=
  let taking := match concurrency with
    | .blocking => stream.send <|> stream.write
    | .asynchronous => stream.write
  match taking with
  | none => (.raised (.lacks stream.kind "write"), state)
  | some write => write lent state

/-- The same stream, used as if it were no socket. -/
def unplugged (stream : Stream State) : Stream State :=
  { stream with receive := none, send := none }

theorem unplugged_eq {stream : Stream State} (receive : stream.receive = none)
    (send : stream.send = none) : stream.unplugged = stream := by
  cases stream
  cases receive
  cases send
  rfl

/-! ## Streams in the wrong hands -/

/-- An asynchronous stream as a blocking caller sees it.  Every operation gives
a promise, which nobody keeps, and the caller fails on it. -/
def promising (stream : Stream State) (failure : Misuse) : Stream State where
  kind := stream.kind
  readInto := stream.readInto.map fun _ lent state =>
    (lent.untouched (.raised (.misuse failure)), state)
  fetch := stream.fetch.map fun _ _ state => (.raised (.misuse .promiseMeasured), state)
  write := stream.write.map fun _ _ state => (.raised (.misuse failure), state)
  flush := stream.flush.map fun _ state => (none, state)
  close := stream.close.map fun _ state => (none, state)

/-- A reply of a blocking stream as an asynchronous caller sees it, who waits
for a promise. -/
def Reply.awaited : Reply -> Reply
  | .moved _ => .raised (.misuse (.notAwaitable "int"))
  | .wouldBlock => .raised (.misuse (.notAwaitable "NoneType"))
  | .raised fault => .raised fault

/-- A blocking stream as an asynchronous caller sees it.  Every operation is
performed, and then the caller fails on its reply. -/
def awaited (stream : Stream State) : Stream State where
  kind := stream.kind
  concurrency := .asynchronous
  readInto := stream.readInto.map fun readInto lent state =>
    let (filling, state) := readInto lent state
    ({ filling with reply := Reply.awaited filling.reply }, state)
  write := stream.write.map fun write lent state =>
    let (reply, state) := write lent state
    (Reply.awaited reply, state)

/-- A stream as a runtime sees it. -/
def seenBy (stream : Stream State) (concurrency : Concurrency) : Stream State :=
  match concurrency, stream.concurrency with
  | .blocking, .asynchronous => stream.promising .promiseCompared
  | .asynchronous, .blocking => stream.awaited
  | _, _ => stream

/-- A stream as a local stream before it sees it. -/
def asFile (stream : Stream State) : Stream State :=
  match stream.concurrency with
  | .blocking => stream
  | .asynchronous => stream.promising .promiseAdded

/-! ## Streams in a larger state -/

/-- A place in a larger state where the state of a stream is kept. -/
structure Place (Outer State : Type) where
  get : Outer -> State
  put : State -> Outer -> Outer

/-- Run an operation at a place. -/
def Place.run {Answer : Type} (place : Place Outer State) (operation : State -> Answer × State)
    (outer : Outer) : Answer × Outer :=
  let (answer, state) := operation (place.get outer)
  (answer, place.put state outer)

/-- The same stream, with its state kept at a place in a larger one. -/
def lift (place : Place Outer State) (stream : Stream State) : Stream Outer where
  kind := stream.kind
  concurrency := stream.concurrency
  receive := stream.receive.map fun receive lent => place.run (receive lent)
  send := stream.send.map fun send lent => place.run (send lent)
  readInto := stream.readInto.map fun readInto lent => place.run (readInto lent)
  fetch := stream.fetch.map fun fetch count => place.run (fetch count)
  write := stream.write.map fun write lent => place.run (write lent)
  flush := stream.flush.map place.run
  close := stream.close.map place.run

end Stream

end ResumableStreams
