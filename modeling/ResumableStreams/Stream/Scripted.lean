import ResumableStreams.Stream

namespace ResumableStreams

/-!
# Scripted streams

A scripted stream moves bytes as a script prescribes, call by call: all it
can, up to some number, nothing at present, or a failure; it may also claim a
count that it has not moved, or fetch more than it was asked for.  When the
script is used up, every call moves all it can.  What has been written is
kept in a sink.
-/

/-- What a script prescribes for one call. -/
inductive Prescription where
  | everything
  /-- Move at most this many bytes; a negative number counts as zero. -/
  | upTo (count : Int)
  | wouldBlock
  | raise (kind text : String)
  /-- Move nothing and claim this count. -/
  | claim (count : Int)
  /-- Fetch these bytes, however many were asked for. -/
  | surplus (data : Bytes)

/-- The operations that a scripted stream has. -/
structure Faces where
  readInto : Bool
  fetch : Bool
  write : Bool
  flush : Bool
  deriving DecidableEq

/-- A stream that follows a script. -/
structure Scripted where
  remaining : Bytes
  reads : List Prescription
  writes : List Prescription
  sink : Collected
  calls : Nat
  flushes : Nat

namespace Scripted

/-- Count a read and take its prescription off the script. -/
def nextRead (stream : Scripted) : Prescription × Scripted :=
  (stream.reads.headD .everything,
    { stream with reads := stream.reads.tail, calls := stream.calls + 1 })

/-- Count a write and take its prescription off the script. -/
def nextWrite (stream : Scripted) : Prescription × Scripted :=
  (stream.writes.headD .everything,
    { stream with writes := stream.writes.tail, calls := stream.calls + 1 })

/-- Take at most `count` bytes off what remains. -/
def take (stream : Scripted) (count : Nat) : Bytes × Scripted :=
  (stream.remaining.take count, { stream with remaining := stream.remaining.drop count })

def accept (stream : Scripted) (data : Bytes) : Reply × Scripted :=
  (.moved data.length, { stream with sink := stream.sink.append data })

/-- Read into a buffer as prescribed.  The bytes are taken off before it shows
whether the buffer can hold them. -/
def readInto (lent : Lent) (stream : Scripted) : Filling × Scripted :=
  let (prescription, stream) := stream.nextRead
  let filled := fun (count : Nat) =>
    let (data, stream) := stream.take count
    (lent.put data, stream)
  match prescription with
  | .everything => filled lent.size
  | .upTo count => filled (min count.toNat lent.size)
  | .wouldBlock => (lent.untouched .wouldBlock, stream)
  | .raise kind text => (lent.untouched (.raised (.scripted kind text)), stream)
  | .claim count => (lent.untouched (.moved count), stream)
  | .surplus data => (lent.put data, stream)

/-- Fetch bytes as prescribed.  There is no way to claim a count here. -/
def fetch (count : Nat) (stream : Scripted) : Fetch × Scripted :=
  let (prescription, stream) := stream.nextRead
  let fetched := fun (count : Nat) =>
    let (data, stream) := stream.take count
    ((.bytes data, stream) : Fetch × Scripted)
  match prescription with
  | .everything => fetched count
  | .upTo limit => fetched (min limit.toNat count)
  | .wouldBlock => (.wouldBlock, stream)
  | .raise kind text => (.raised (.scripted kind text), stream)
  | .claim _ => (.bytes [], stream)
  | .surplus data => (.bytes data, stream)

/-- Take bytes into the sink as prescribed. -/
def write (lent : Lent) (stream : Scripted) : Reply × Scripted :=
  let data := lent.bytes
  let (prescription, stream) := stream.nextWrite
  match prescription with
  | .everything | .surplus _ => stream.accept data
  | .upTo count => stream.accept (data.take count.toNat)
  | .wouldBlock => (.wouldBlock, stream)
  | .raise kind text => (.raised (.scripted kind text), stream)
  | .claim count => (.moved count, stream)

def flush (stream : Scripted) : Option Fault × Scripted :=
  (none, { stream with flushes := stream.flushes + 1 })

def stream (concurrency : Concurrency) (faces : Faces) : Stream Scripted where
  kind := "ScriptedStream"
  concurrency := concurrency
  readInto := if faces.readInto then some readInto else none
  fetch := if faces.fetch then some fetch else none
  write := if faces.write then some write else none
  flush := if faces.flush then some flush else none

end Scripted

end ResumableStreams
