import ResumableStreams.Stream

namespace ResumableStreams

/-!
# Streams with a reading and a writing side

Either side may be missing.  The reading side has everything that was fed to
it, then the end; or it fails at every read.  The writing side takes all it
is offered and then drains, which may fail after the bytes have been taken.
Once it is closed it takes nothing.
-/

/-- The reading side. -/
structure Feed where
  buffered : Bytes
  failure : Option String

/-- The writing side. -/
structure Drain where
  data : Collected
  closed : Bool
  drains : Nat
  failure : Option String

/-- A stream with at most one side for each direction. -/
structure Duplex where
  feed : Option Feed
  drain : Option Drain

namespace Duplex

/-- Read what is buffered, up to the length of the buffer.  The bytes are taken
off before it shows whether the buffer can hold them. -/
def readInto (lent : Lent) (stream : Duplex) : Filling × Duplex :=
  match stream.feed with
  | none => (lent.untouched (.raised .unreadable), stream)
  | some ⟨_, some text⟩ => (lent.untouched (.raised (.systemText text)), stream)
  | some ⟨buffered, none⟩ =>
    (lent.put (buffered.take lent.size),
      { stream with feed := some ⟨buffered.drop lent.size, none⟩ })

/-- Take all bytes, then drain. -/
def write (lent : Lent) (stream : Duplex) : Reply × Duplex :=
  let data := lent.bytes
  match stream.drain with
  | none => (.raised .unwritable, stream)
  | some drain =>
    if drain.closed then (.moved 0, stream)
    else
      (match drain.failure with
        | none => .moved data.length
        | some text => .raised (.connectionReset text),
        { stream with
          drain := some { drain with data := drain.data.append data, drains := drain.drains + 1 } })

/-- Close the writing side, if there is one. -/
def close (stream : Duplex) : Option Fault × Duplex :=
  (none, { stream with drain := stream.drain.map fun drain => { drain with closed := true } })

def stream : Stream Duplex where
  kind := "AsyncioStream"
  concurrency := .asynchronous
  readInto := some readInto
  write := some write
  close := some close

end Duplex

end ResumableStreams
