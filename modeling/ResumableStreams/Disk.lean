import ResumableStreams.Disk.Path
import ResumableStreams.Fault

namespace ResumableStreams

/-!
# Files and directories

A `Disk` holds files and directories by their locations.  Following a path
through it either arrives at something, or at a place in an existing
directory where there is nothing, or is refused; the first step that cannot
be taken decides which refusal.
-/

/-- Files and directories.  The working directory, those above it and the root
are there without being listed. -/
structure Disk where
  files : List (Location × Bytes)
  directories : List Location

namespace Disk

def empty : Disk := ⟨[], []⟩

/-- The contents of the file at a location, empty if there is none. -/
def contents (disk : Disk) (location : Location) : Bytes := (disk.files.lookup location).getD []

def hasFile (disk : Disk) (location : Location) : Bool := (disk.files.lookup location).isSome

/-- There is a directory at the location.  The directories above a file or
directory are there even if they are not listed. -/
def hasDirectory (disk : Disk) (location : Location) : Bool :=
  location.all (· = "..") || location = ["/"] || disk.directories.any (location.isPrefixOf ·) ||
    disk.files.any fun (file, _) => location.isPrefixOf file && location != file

/-- Put contents at a location in a list of files. -/
def putFile (location : Location) (bytes : Bytes) :
    List (Location × Bytes) -> List (Location × Bytes)
  | [] => [(location, bytes)]
  | (other, old) :: rest =>
    if other = location then (location, bytes) :: rest
    else (other, old) :: putFile location bytes rest

/-- Create or replace the file at a location. -/
def store (disk : Disk) (location : Location) (bytes : Bytes) : Disk :=
  { disk with files := putFile location bytes disk.files }

theorem lookup_putFile_self (location : Location) (bytes : Bytes)
    (files : List (Location × Bytes)) :
    (putFile location bytes files).lookup location = some bytes := by
  induction files with
  | nil => simp [putFile]
  | cons first rest inductive_step =>
    obtain ⟨other, old⟩ := first
    by_cases same : other = location
    · simp [putFile, same]
    · have apart : (location == other) = false := beq_eq_false_iff_ne.mpr (Ne.symm same)
      simp [putFile, same, List.lookup_cons, apart, inductive_step]

theorem lookup_putFile_of_ne {location other : Location} (different : other ≠ location)
    (bytes : Bytes) (files : List (Location × Bytes)) :
    (putFile location bytes files).lookup other = files.lookup other := by
  have apart : (other == location) = false := beq_eq_false_iff_ne.mpr different
  induction files with
  | nil => simp [putFile, List.lookup_cons, apart]
  | cons first rest inductive_step =>
    obtain ⟨place, old⟩ := first
    by_cases same : place = location
    · subst same
      simp [putFile, List.lookup_cons, apart]
    · simp [putFile, same, List.lookup_cons, inductive_step]

@[simp] theorem contents_store_self (disk : Disk) (location : Location) (bytes : Bytes) :
    (disk.store location bytes).contents location = bytes := by
  simp [contents, store, lookup_putFile_self]

theorem contents_store_of_ne {location other : Location} (different : other ≠ location)
    (disk : Disk) (bytes : Bytes) :
    (disk.store location bytes).contents other = disk.contents other := by
  simp [contents, store, lookup_putFile_of_ne different]

/-- Put an entry of a listing in place: a name that ends in a slash is a
directory. -/
def addEntry (disk : Disk) (name : String) (bytes : Bytes) : Disk :=
  if name.endsWith "/" then
    { disk with directories := disk.directories ++ [Path.location name] }
  else disk.store (Path.location name) bytes

/-- All files below the working directory by name. -/
def listing (disk : Disk) : List (String × Bytes) :=
  (disk.files.filter fun (location, _) => location.isBelow).map
    fun (location, bytes) => (location.path, bytes)

/-! ## Following a path -/

/-- What a path leads to.  `slashed` tells that the path has a slash after the
name of what it leads to. -/
inductive Target where
  | file (location : Location) (slashed : Bool)
  | directory (slashed : Bool)
  | free (location : Location) (slashed : Bool)
  /-- In an existing directory, a name that is too long for anything. -/
  | overlong (slashed : Bool)
  deriving DecidableEq

/-- The longest name of a file or directory, in bytes. -/
def nameLimit : Nat := 255

/-- The length from which on a path is refused, in bytes. -/
def pathLimit : Nat := 4096

/-- Follow steps from a directory.  `here` is the location of the directory,
last step first. -/
def follow (disk : Disk) (path : String) (slashed : Bool) :
    (here : List String) -> (steps : List String) -> Except SystemRefusal Target
  | _, [] => .ok (.directory false)
  | here, "." :: steps => disk.follow path slashed here steps
  | here, ".." :: steps => disk.follow path slashed (Path.up here) steps
  | here, name :: steps =>
    let location := (name :: here).reverse
    if name.utf8ByteSize > nameLimit then
      if steps.isEmpty then .ok (.overlong slashed) else .error (.nameTooLong path)
    else if disk.hasDirectory location then
      match steps with
      | [] => .ok (.directory slashed)
      | _ => disk.follow path slashed (name :: here) steps
    else
      match steps with
      | [] =>
        if disk.hasFile location then .ok (.file location slashed)
        else .ok (.free location slashed)
      | _ => if disk.hasFile location then .error (.notDirectory path) else .error (.notFound path)

/-- Follow a path from the working directory, or from the root. -/
def resolve (disk : Disk) (path : String) : Except SystemRefusal Target :=
  if path.isEmpty then .error (.notFound path)
  else if path.utf8ByteSize ≥ pathLimit then .error (.nameTooLong path)
  else disk.follow path (path.endsWith "/") (Path.origin path) (Path.steps path)

end Disk

end ResumableStreams
