import ResumableStreams.Disk

namespace ResumableStreams

/-!
# Modes of opening a file

A mode is a word of letters in any order, none of them twice: one letter for
the purpose, a plus if the file is to be both read and written, and possibly
a letter for text or for bytes.
-/

/-- What a file is opened for. -/
inductive Purpose where
  | reading
  | writing
  /-- Writing to a file that must not exist yet. -/
  | creating
  | appending
  deriving DecidableEq

/-- How a file is opened. -/
structure Mode where
  purpose : Purpose
  both : Bool
  /-- The file holds text, not bytes. -/
  text : Bool
  deriving DecidableEq

namespace Mode

/-- The purpose that a letter stands for. -/
def purposeOf : Char -> Option Purpose
  | 'r' => some .reading
  | 'w' => some .writing
  | 'x' => some .creating
  | 'a' => some .appending
  | _ => none

def isLetter (char : Char) : Bool :=
  (purposeOf char).isSome || char = '+' || char = 't' || char = 'b'

/-- Every letter is known and stands once. -/
def wellFormed : List Char -> Bool
  | [] => true
  | letter :: rest => isLetter letter && !rest.contains letter && wellFormed rest

def parse (mode : String) : Except BadMode Mode :=
  let letters := mode.toList
  if letters.contains '\x00' then .error .containsNull
  else if !wellFormed letters then .error (.unknown mode)
  else if letters.contains 't' && letters.contains 'b' then .error .textAndBinary
  else
    match letters.filterMap purposeOf with
    | [] => .error .noPurpose
    | [purpose] => .ok ⟨purpose, letters.contains '+', !letters.contains 'b'⟩
    | _ => .error .severalPurposes

def readable (mode : Mode) : Bool := mode.both || mode.purpose = .reading

def writable (mode : Mode) : Bool := mode.both || mode.purpose ≠ .reading

/-- Reading from the start, the usual mode of a source. -/
def source : String := "rb"

/-- Writing from the start into an emptied file, the usual mode of a sink. -/
def sink : String := "wb"

end Mode

namespace Disk

/-- Open a path: the location of the file, and the disk with a file there.  A
file opened for writing is emptied.  Only reading requires the file to be
there, and only creating requires it not to be. -/
def openPath (disk : Disk) (path : String) (mode : Mode) :
    Except SystemRefusal (Location × Disk) := do
  let target <- disk.resolve path
  match mode.purpose, target with
  | .reading, .file location false => .ok (location, disk)
  | .reading, .file _ true => .error (.notDirectory path)
  | .reading, .directory _ => .error (.isDirectory path)
  | .reading, .free _ _ => .error (.notFound path)
  | .reading, .overlong _ => .error (.nameTooLong path)
  | _, .file _ true | _, .directory true | _, .free _ true | _, .overlong true =>
    .error (.isDirectory path)
  | _, .overlong false => .error (.nameTooLong path)
  | .creating, .file _ _ | .creating, .directory _ => .error (.alreadyExists path)
  | _, .directory _ => .error (.isDirectory path)
  | .appending, .file location _ => .ok (location, disk)
  | _, .file location _ => .ok (location, disk.store location [])
  | _, .free location _ => .ok (location, disk.store location [])

end Disk

end ResumableStreams
