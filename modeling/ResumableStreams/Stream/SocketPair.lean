import ResumableStreams.Stream

namespace ResumableStreams

/-!
# Connected sockets

Two sockets are connected to each other and never wait.  What one sends is
what the other receives, in order.  Receiving from an empty queue would
block, unless the other side has stopped sending; then it is the end.
Sending after one's own side or the other has gone is a broken pipe.

An end that is closed before it has received everything resets the
connection: the other end learns of it once, after it has received what was
sent to it.  Receiving into an empty buffer touches nothing.
-/

/-- One end of a connection. -/
structure SocketEnd where
  /-- What the other end has sent and this one has not received. -/
  incoming : Bytes
  /-- This end has stopped sending. -/
  finishedSending : Bool
  closed : Bool
  /-- The other end has reset the connection, and this one has not been told. -/
  reset : Bool

/-- The two ends of a connection, seen from one of them. -/
structure SocketPair where
  own : SocketEnd
  other : SocketEnd

namespace SocketEnd

/-- An end that has sent and received nothing. -/
def fresh : SocketEnd := ⟨[], false, false, false⟩

end SocketEnd

namespace SocketPair

/-- The same connection seen from the other end. -/
def swap (pair : SocketPair) : SocketPair := ⟨pair.other, pair.own⟩

/-- Receive into a buffer.  Immutable bytes are refused first. -/
def receive (lent : Lent) (pair : SocketPair) : Filling × SocketPair :=
  if !lent.mutable then
    (lent.untouched (.raised (.immutableArgument "recv_into() argument 1")), pair)
  else if lent.bytes.isEmpty then (lent.untouched (.moved 0), pair)
  else if pair.own.closed then (lent.untouched (.raised (.system .badDescriptor)), pair)
  else if pair.own.incoming.isEmpty && pair.own.reset then
    (lent.untouched (.raised (.system .connectionReset)),
      { pair with own := { pair.own with reset := false } })
  else if pair.own.incoming.isEmpty && !pair.other.finishedSending then
    (lent.untouched (.raised (.system .wouldBlock)), pair)
  else
    (lent.put (pair.own.incoming.take lent.size),
      { pair with own := { pair.own with incoming := pair.own.incoming.drop lent.size } })

/-- Send bytes.  All of them are taken. -/
def send (lent : Lent) (pair : SocketPair) : Reply × SocketPair :=
  let data := lent.bytes
  if pair.own.closed then (.raised (.system .badDescriptor), pair)
  else if pair.own.finishedSending || pair.other.closed then
    (.raised (.system .brokenPipe), pair)
  else
    (.moved data.length,
      { pair with other := { pair.other with incoming := pair.other.incoming ++ data } })

def finishSending (pair : SocketPair) : Option Fault × SocketPair :=
  if pair.own.closed then (some (.system .badDescriptor), pair)
  else (none, { pair with own := { pair.own with finishedSending := true } })

/-- Close this end.  Closing it again changes nothing. -/
def close (pair : SocketPair) : Option Fault × SocketPair :=
  (none,
    { own := { pair.own with finishedSending := true, closed := true, incoming := [] }
      other := { pair.other with reset := pair.other.reset || !pair.own.incoming.isEmpty } })

/-- The operations of the end from which the pair is seen.  A socket has none
of the operations of files. -/
def stream : Stream SocketPair where
  kind := "socket"
  receive := some receive
  send := some send
  close := some close

end SocketPair

end ResumableStreams
