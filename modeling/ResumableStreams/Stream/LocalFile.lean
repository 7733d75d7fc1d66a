import ResumableStreams.Stream

namespace ResumableStreams

/-!
# Local streams

A local stream stands before a file: one it has opened itself, or one that
was handed in.  It passes every operation on and counts the bytes that the
file says have moved.  It reads into a buffer even where the file can only
fetch.  Closing it closes a file of its own and forgets it; a file that was
handed in is left alone.
-/

/-- What a local stream keeps about its file. -/
structure LocalFile where
  /-- The stream has opened the file itself. -/
  owned : Bool
  /-- The file has been closed and forgotten. -/
  forgotten : Bool
  bytesRead : Int
  bytesWritten : Int

namespace LocalFile

variable {State : Type}

/-- A local stream before a file that it has opened, or that was handed in. -/
def fresh (owned : Bool) : LocalFile := ⟨owned, false, 0, 0⟩

/-- The number of bytes that a reply says have moved. -/
def moved : Reply -> Int
  | .moved count => count
  | .wouldBlock | .raised _ => 0

def countRead (file : LocalFile) (reply : Reply) : LocalFile :=
  { file with bytesRead := file.bytesRead + moved reply }

def countWritten (file : LocalFile) (reply : Reply) : LocalFile :=
  { file with bytesWritten := file.bytesWritten + moved reply }

/-- Read from the file, by fetching if it cannot read into a buffer. -/
def readInto (inner : Stream State) (lent : Lent) :
    LocalFile × State -> Filling × (LocalFile × State)
  | (file, state) =>
    if file.forgotten then (lent.untouched (.raised (.lacks "NoneType" "read")), (file, state))
    else
      let (filling, state) := match inner.readInto with
        | some readInto => readInto lent state
        | none => inner.fillByFetching lent state
      (filling, (file.countRead filling.reply, state))

/-- A file that is still there is read as a blocking caller reads it who does not
use sockets. -/
theorem readInto_of_remembered {file : LocalFile} (remembered : file.forgotten = false)
    (inner : Stream State) (lent : Lent) (state : State) :
    readInto inner lent (file, state) =
      let read := inner.unplugged.fill .blocking lent state
      (read.1, (file.countRead read.1.reply, read.2)) := by
  simp only [readInto, remembered, Bool.false_eq_true, if_false]
  rfl

/-- Write to the file. -/
def write (inner : Stream State) (lent : Lent) :
    LocalFile × State -> Reply × (LocalFile × State)
  | (file, state) =>
    if file.forgotten then (.raised (.lacks "NoneType" "write"), (file, state))
    else
      let (reply, state) : Reply × State := match inner.write with
        | some write => write lent state
        | none => (.raised (.lacks inner.kind "write"), state)
      (reply, (file.countWritten reply, state))

theorem write_of_remembered {file : LocalFile} (remembered : file.forgotten = false)
    (inner : Stream State) (lent : Lent) (state : State) :
    write inner lent (file, state) =
      let written := inner.unplugged.offer .blocking lent state
      (written.1, (file.countWritten written.1, written.2)) := by
  simp only [write, remembered, Bool.false_eq_true, if_false]
  cases inner with
  | mk kind concurrency receive send readInto fetch write flush close =>
    cases write with
    | none => rfl
    | some write => rfl

/-- Flush the file, if it can be flushed. -/
def flush (inner : Stream State) : LocalFile × State -> Option Fault × (LocalFile × State)
  | (file, state) =>
    match file.forgotten, inner.flush with
    | false, some flush =>
      let (fault, state) := flush state
      (fault, (file, state))
    | _, _ => (none, (file, state))

/-- Close and forget a file of the stream's own.  If closing fails, the file
is not forgotten. -/
def close (inner : Stream State) : LocalFile × State -> Option Fault × (LocalFile × State)
  | (file, state) =>
    match file.owned && !file.forgotten, inner.close with
    | true, some close =>
      let (fault, state) := close state
      (fault, ({ file with forgotten := fault.isNone }, state))
    | _, _ => (none, (file, state))

def stream (concurrency : Concurrency) (inner : Stream State) : Stream (LocalFile × State) where
  kind := match concurrency with
    | .blocking => "LocalStream"
    | .asynchronous => "LocalAsyncStream"
  concurrency := concurrency
  readInto := some (readInto inner)
  write := some (write inner)
  flush := some (flush inner)
  close := some (close inner)

end LocalFile

end ResumableStreams
