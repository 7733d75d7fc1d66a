import ResumableStreams.Stream

namespace ResumableStreams

/-!
# Files in memory

A file in memory has one position, from which it is read and at which it is
overwritten.  Reading past the end gives nothing; writing past the end fills
the gap with zeros.  Every operation moves as much as it can.
-/

/-- A file that is held in memory. -/
structure MemoryFile where
  contents : Bytes
  position : Nat
  closed : Bool

namespace MemoryFile

/-- A file with the given contents, open at its start. -/
def ofBytes (contents : Bytes) : MemoryFile := ⟨contents, 0, false⟩

/-- What lies between the position and the end. -/
def unread (file : MemoryFile) : Bytes := file.contents.drop file.position

/-- The bytes that a read of `count` gives. -/
def next (file : MemoryFile) (count : Nat) : Bytes := file.unread.take count

/-- Move the position behind the given number of bytes. -/
def advance (file : MemoryFile) (count : Nat) : MemoryFile :=
  { file with position := file.position + count }

/-- What is left to read after an advance. -/
theorem unread_advance (file : MemoryFile) (count : Nat) :
    (file.advance count).unread = file.unread.drop count := by
  simp [unread, advance, List.drop_drop]

/-- Read into a buffer.  Immutable bytes are refused first. -/
def readInto (lent : Lent) (file : MemoryFile) : Filling × MemoryFile :=
  if !lent.mutable then
    (lent.untouched (.raised (.immutableArgument "readinto() argument")), file)
  else if file.closed then (lent.untouched (.raised .closedFile), file)
  else
    let data := file.next lent.size
    (lent.put data, file.advance data.length)

def fetch (count : Nat) (file : MemoryFile) : Fetch × MemoryFile :=
  if file.closed then (.raised .closedFile, file)
  else
    let data := file.next count
    (.bytes data, file.advance data.length)

/-- Overwrite from the position on.  Writing nothing does not fill a gap. -/
def write (lent : Lent) (file : MemoryFile) : Reply × MemoryFile :=
  let data := lent.bytes
  if file.closed then (.raised .closedFile, file)
  else if data.isEmpty then (.moved 0, file)
  else
    (.moved data.length,
      { file with
        contents := Bytes.overAt file.position data file.contents
        position := file.position + data.length })

/-- There is nothing to flush, but a closed file refuses. -/
def flush (file : MemoryFile) : Option Fault × MemoryFile :=
  (if file.closed then some .closedFile else none, file)

def stream : Stream MemoryFile where
  kind := "_io.BytesIO"
  readInto := some readInto
  fetch := some fetch
  write := some write
  flush := some flush
  close := some fun file => (none, { file with closed := true })

end MemoryFile

end ResumableStreams
