import ResumableStreams.Disk.Mode
import ResumableStreams.Rounding
import ResumableStreams.Stream

namespace ResumableStreams

/-!
# Files opened as text

A file that was opened as text hands out characters and takes characters.  It
is of no use where bytes are moved: whatever comes is refused there, and only
the end of the file is not.  So of the characters only their number counts.

The file is read in pieces.  A character or a line end that is cut off at the
end of a piece waits for the next one.
-/

/-- A file of the disk that has been opened as text. -/
structure TextFile where
  location : Location
  mode : Mode
  /-- Where the next piece starts. -/
  position : Nat
  /-- Bytes of a character that has been cut off. -/
  undecoded : Bytes
  /-- A carriage return is kept back, to see what follows it. -/
  afterReturn : Bool
  /-- How many characters have been decoded and not handed out. -/
  decoded : Nat
  /-- The numbers of bytes and of characters in the last piece. -/
  lastPiece : Nat × Nat
  closes : Nat

namespace TextFile

/-- A file as it is when just opened. -/
def start (location : Location) (mode : Mode) (disk : Disk) : TextFile where
  location := location
  mode := mode
  position := if mode.purpose = .appending then (disk.contents location).length else 0
  undecoded := []
  afterReturn := false
  decoded := 0
  lastPiece := (0, 0)
  closes := 0

/-- The usual length of a piece, in bytes. -/
def pieceSize : Nat := 8192

/-- The length of the next piece, if so many characters are wanted and they
take as many bytes as in the last piece, or one each. -/
def nextSize (file : TextFile) (wanted : Nat) : Nat :=
  let (bytes, chars) := file.lastPiece
  max pieceSize
    (if chars = 0 ∨ bytes ≤ chars then wanted else Rounding.scaled bytes chars wanted)

/-- Take up decoded characters.  A carriage return at the end is kept back
unless it is the end of the file. -/
def takeUp (file : TextFile) (chars : List Char) (atEnd : Bool) : Nat × TextFile :=
  let chars := if file.afterReturn && (atEnd || !chars.isEmpty) then '\r' :: chars else chars
  let keptBack := !atEnd && (chars.getLast? = some '\r' || (file.afterReturn && chars.isEmpty))
  let count := (Text.unifyLineEnds (if keptBack then chars.dropLast else chars)).length
  (count, { file with afterReturn := keptBack, decoded := count })

/-- Read and decode the next piece.  The answer tells if there may be more. -/
def readPiece (file : TextFile) (wanted : Nat) (contents : Bytes) :
    Except Fault Bool × TextFile :=
  let piece := (contents.drop file.position).take (file.nextSize wanted)
  let moved := { file with position := file.position + piece.length }
  match Text.decode piece.isEmpty (file.undecoded ++ piece) with
  | .error fault => (.error (.notText fault), moved)
  | .ok (chars, undecoded) =>
    let (count, moved) := { moved with undecoded := undecoded }.takeUp chars piece.isEmpty
    (.ok (!piece.isEmpty || count > 0), { moved with lastPiece := (piece.length, count) })

/-- Hand out characters, reading pieces until there are enough. -/
def gather (contents : Bytes) :
    (limit wanted given : Nat) -> TextFile -> Except Fault Nat × TextFile
  | 0, _, given, file => (.ok given, file)
  | limit + 1, wanted, given, file =>
    let ready := min wanted file.decoded
    let file := { file with decoded := file.decoded - ready }
    if wanted = ready then (.ok (given + ready), file)
    else
      match file.readPiece (wanted - ready) contents with
      | (.error fault, file) => (.error fault, file)
      | (.ok false, file) => (.ok (given + ready), file)
      | (.ok true, file) => gather contents limit (wanted - ready) (given + ready) file

/-- Hand out so many characters, or all that are left.  Every piece but the
last two is at least one byte, which limits their number. -/
def fetch (count : Nat) : TextFile × Disk -> Fetch × (TextFile × Disk)
  | (file, disk) =>
    if file.closes > 0 then (.raised .closedFile, (file, disk))
    else if !file.mode.readable then (.raised (.unsupported "not readable"), (file, disk))
    else
      let contents := disk.contents file.location
      match file.gather contents (contents.length + 3) count 0 with
      | (.ok count, file) => (.characters count, (file, disk))
      | (.error fault, file) => (.raised fault, (file, disk))

/-- Bytes are refused. -/
def write (lent : Lent) (state : TextFile × Disk) : Reply × (TextFile × Disk) :=
  (.raised (.bytesForText (if lent.mutable then "bytearray" else "bytes")), state)

def stream : Stream (TextFile × Disk) where
  kind := "_io.TextIOWrapper"
  fetch := some fetch
  write := some write
  flush := some fun (file, disk) =>
    (if file.closes > 0 then some .closedFile else none, (file, disk))
  close := some fun (file, disk) => (none, ({ file with closes := file.closes + 1 }, disk))

end TextFile

end ResumableStreams
