namespace ResumableStreams

/-!
# The journal

Machines and runtimes note what they do.  An `Event` is one such note; a
journal is a list of them.  Nothing in this library looks at a journal to
decide anything.
-/

/-- The two ways to run a machine: waiting for every transfer, or letting
other tasks go on meanwhile. -/
inductive Concurrency where
  | blocking
  | asynchronous
  deriving DecidableEq

/-- The adverb for a way of running. -/
def Concurrency.adverb : Concurrency -> String
  | .blocking => "synchronously"
  | .asynchronous => "asynchronously"

/-- Where an event comes from. -/
inductive Component where
  | read
  | write
  | readExact
  | readToEnd
  | writeAll
  | runtime (concurrency : Concurrency)
  | http (concurrency : Concurrency)

def Component.label : Component -> String
  | .read => "streamcoro.coroutines.read"
  | .write => "streamcoro.coroutines.write"
  | .readExact => "streamcoro.coroutines.read_exact"
  | .readToEnd => "streamcoro.coroutines.read_to_end"
  | .writeAll => "streamcoro.coroutines.write_all"
  | .runtime .blocking => "streamcoro.io.stream_sync"
  | .runtime .asynchronous => "streamcoro.io.stream_async"
  | .http .blocking => "streamcoro.io.http_sync"
  | .http .asynchronous => "streamcoro.io.http_async"

/-- One note. -/
inductive Event where
  | readCreated (capacity : Nat)
  | readRequested
  | readResumed
  | readCompleted (count size : Nat)
  | writeCreated (size : Nat)
  | writePrepared (size : Nat)
  | writeRequested
  | writeResumed
  | writeCompleted (count : Nat)
  | readExactCreated (target : Nat) (capacity : Int)
  | remainingToRead (count : Nat)
  | readToEndCreated (capacity : Nat)
  | writeAllCreated (size : Nat)
  | remainingToWrite (count : Nat)
  | readingFrom (concurrency : Concurrency)
  | writingTo (concurrency : Concurrency)
  | sendingGet (concurrency : Concurrency) (url : String)

namespace Event

def component : Event -> Component
  | .readCreated _ | .readRequested | .readResumed | .readCompleted _ _ => .read
  | .writeCreated _ | .writePrepared _ | .writeRequested | .writeResumed | .writeCompleted _ =>
    .write
  | .readExactCreated _ _ | .remainingToRead _ => .readExact
  | .readToEndCreated _ => .readToEnd
  | .writeAllCreated _ | .remainingToWrite _ => .writeAll
  | .readingFrom concurrency | .writingTo concurrency => .runtime concurrency
  | .sendingGet concurrency _ => .http concurrency

def message : Event -> String
  | .readCreated capacity => s!"init coroutine to read bytes (capacity: {capacity})"
  | .readRequested => "wants I/O to read bytes"
  | .readResumed => "resume after reading bytes"
  | .readCompleted count size => s!"read {count}/{size} bytes"
  | .writeCreated size => s!"init coroutine for writing {size} bytes"
  | .writePrepared size => s!"prepare {size} bytes to be written"
  | .writeRequested => "wants I/O to write bytes"
  | .writeResumed => "resume after writing bytes"
  | .writeCompleted count => s!"wrote {count} bytes"
  | .readExactCreated target capacity =>
    s!"init coroutine to read exactly {target} bytes (capacity: {capacity})"
  | .remainingToRead count => s!"{count} remaining bytes to read"
  | .readToEndCreated capacity => s!"init coroutine to read until EOF (capacity: {capacity})"
  | .writeAllCreated size => s!"init coroutine to write all {size} bytes"
  | .remainingToWrite count => s!"{count} remaining bytes to write"
  | .readingFrom concurrency => s!"reading bytes {concurrency.adverb}"
  | .writingTo concurrency => s!"writing bytes {concurrency.adverb}"
  | .sendingGet _ url => s!"sending GET {url}"

/-- The event as a line of the journal. -/
def line (event : Event) : String := s!"DEBUG {event.component.label}: {event.message}"

end Event

end ResumableStreams
