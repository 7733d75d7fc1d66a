import ResumableStreams.Disk.Mode
import ResumableStreams.Stream

namespace ResumableStreams

/-!
# Open files

An open file works on its contents through one block.  A read fills the block
from the disk and is served from it; a write goes into the block and waits
there until it no longer fits, or until the file is flushed or closed.

A file that is both read and written has one block for both.  What is written
stands over what was read there, reading goes on behind it without asking the
disk, and everything between the first and the last byte written goes to the
disk at once, with what was read in between.
-/

def blockSize : Nat := 4096

/-- A file of the disk that has been opened. -/
structure OpenFile where
  location : Location
  mode : Mode
  /-- Where the file is to be read from or written to next. -/
  position : Nat
  /-- The block up to the place where the next byte will be read or written. -/
  passed : Collected
  /-- What was read into the block behind that place. -/
  ahead : Bytes
  /-- The block holds what was read from the disk. -/
  filled : Bool
  /-- The part of the block that has been written and is not on the disk: the
  place where it starts and the place where it ends. -/
  unsaved : Option (Nat × Nat)
  /-- The place in the block to which `position` belongs. -/
  anchor : Nat
  closes : Nat

namespace OpenFile

/-- A file as it is when just opened. -/
def start (location : Location) (mode : Mode) (disk : Disk) : OpenFile where
  location := location
  mode := mode
  position := if mode.purpose = .appending then (disk.contents location).length else 0
  passed := .empty
  ahead := []
  filled := false
  unsaved := none
  anchor := 0
  closes := 0

/-- The place in the block where the next byte will be read or written. -/
def cursor (file : OpenFile) : Nat := file.passed.size

/-- How far `position` is ahead of the cursor.  It may be behind it.  Without a
block in use it is where the cursor is. -/
def lead (file : OpenFile) : Int :=
  if file.filled || file.unsaved.isSome then (file.anchor : Int) - file.cursor else 0

def moveBack (file : OpenFile) (distance : Int) : OpenFile :=
  { file with position := (file.position - distance).toNat }

def dropBlock (file : OpenFile) : OpenFile :=
  { file with passed := .empty, ahead := [], filled := false }

/-- Put bytes on the disk at the position, or behind everything else in a file
that is appended to.  The position is behind them afterwards. -/
def putOnDisk (file : OpenFile) (data : Bytes) (disk : Disk) : OpenFile × Disk :=
  let contents := disk.contents file.location
  let place := if file.mode.purpose = .appending then contents.length else file.position
  ({ file with position := place + data.length },
    disk.store file.location (Bytes.overAt place data contents))

/-- Put what waits in the block on the disk. -/
def settle (file : OpenFile) (disk : Disk) : OpenFile × Disk :=
  let settled := { file with unsaved := none }
  match file.unsaved with
  | none => (settled, disk)
  | some (first, last) =>
    if first = last then (settled, disk)
    else
      let data := (file.passed.bytes.drop first).take (last - first)
      let (settled, disk) := (settled.moveBack (file.anchor - first)).putOnDisk data disk
      ({ settled with anchor := last }, disk)

/-- Put what waits on the disk.  A file that can be read gives up its block,
and its position is at the cursor afterwards. -/
def rewind (file : OpenFile) (disk : Disk) : OpenFile × Disk :=
  let (file, disk) := file.settle disk
  if file.mode.readable then
    ({ file.moveBack file.lead with ahead := [], filled := false }, disk)
  else (file, disk)

/-- Read `count` bytes from the disk behind what the block has given.  More
than a block is read past it; otherwise the block is filled anew. -/
def readOn (file : OpenFile) (count : Nat) (disk : Disk) : Bytes × OpenFile :=
  let file := file.dropBlock
  let coming := (disk.contents file.location).drop file.position
  if count = 0 then ([], file)
  else if count > blockSize then
    let data := coming.take count
    (data, { file with position := file.position + data.length })
  else
    match coming.take blockSize with
    | [] => ([], file)
    | block =>
      let data := block.take count
      (data,
        { file with
          position := file.position + block.length
          passed := .append .empty data
          ahead := block.drop count
          filled := true
          anchor := block.length })

/-- Read `count` bytes, or all that are left. -/
def next (file : OpenFile) (count : Nat) (disk : Disk) : Bytes × OpenFile × Disk :=
  let ready := file.ahead.take count
  let file :=
    { file with passed := file.passed.append ready, ahead := file.ahead.drop count }
  if ready.length = count ∧ 0 < (ready.length + file.ahead.length) then (ready, file, disk)
  else
    let (file, disk) := if file.mode.writable then file.rewind disk else (file, disk)
    let (data, file) := file.readOn (count - ready.length) disk
    (ready ++ data, file, disk)

/-- Read into a buffer.  Immutable bytes are refused first. -/
def readInto (lent : Lent) : OpenFile × Disk -> Filling × (OpenFile × Disk)
  | (file, disk) =>
    if !lent.mutable then
      (lent.untouched (.raised (.immutableArgument "readinto() argument")), (file, disk))
    else if file.closes > 0 then (lent.untouched (.raised .closedFile), (file, disk))
    else if !file.mode.readable then
      (lent.untouched (.raised (.unsupported "read")), (file, disk))
    else
      let (data, file, disk) := file.next lent.size disk
      (lent.put data, (file, disk))

/-- Put bytes into the block at the cursor. -/
def hold (file : OpenFile) (data : Bytes) : OpenFile :=
  let place := file.cursor
  let stop := place + data.length
  { file with
    passed := file.passed.append data
    ahead := file.ahead.drop data.length
    unsaved := match file.unsaved with
      | none => some (place, stop)
      | some (first, last) => some (min first place, max last stop) }

/-- Write bytes that do not fit the block: first what waits goes to the disk,
then these if they exceed a block; otherwise they begin a new one. -/
def writeOn (file : OpenFile) (data : Bytes) (disk : Disk) : OpenFile × Disk :=
  let (file, disk) := file.settle disk
  let file := { (file.moveBack file.lead).dropBlock with anchor := 0 }
  if data.length > blockSize then
    let (file, disk) := file.putOnDisk data disk
    (file.hold [], disk)
  else (file.hold data, disk)

def write (lent : Lent) : OpenFile × Disk -> Reply × (OpenFile × Disk)
  | (file, disk) =>
    let data := lent.bytes
    if file.closes > 0 then (.raised .closedFile, (file, disk))
    else if !file.mode.writable then (.raised (.unsupported "write"), (file, disk))
    else
      let file := if file.filled || file.unsaved.isSome then file
        else { file.dropBlock with anchor := 0 }
      (.moved data.length,
        if data.length ≤ blockSize - file.cursor ∧ data.length < blockSize then
          (file.hold data, disk)
        else file.writeOn data disk)

/-- Put what waits on the disk. -/
def flush : OpenFile × Disk -> Option Fault × (OpenFile × Disk)
  | (file, disk) =>
    if file.closes > 0 then (some .closedFile, (file, disk))
    else (none, if file.mode.writable then file.rewind disk else (file, disk))

/-- Put what waits on the disk, and close the file. -/
def close : OpenFile × Disk -> Option Fault × (OpenFile × Disk)
  | (file, disk) =>
    let (file, disk) := file.settle disk
    (none, ({ file with closes := file.closes + 1 }, disk))

def stream : Stream (OpenFile × Disk) where
  kind := "file"
  readInto := some readInto
  write := some write
  flush := some flush
  close := some close

end OpenFile

end ResumableStreams
