import ResumableStreams.Bytes

namespace ResumableStreams

/-!
# Paths

A path is text.  Its steps are what stands between its slashes; a dot stays
where it is, two dots go up.  A path value is kept in normal form: without
empty steps and without dots, and never empty.  Two dots are kept in it, since
what they mean depends on the file system.

A `Location` is where a path leads, as a list of steps from the working
directory.  It starts with two dots for each directory above the working
directory, or with a slash if it is counted from the root.
-/

/-- The steps from the working directory to a file or directory. -/
abbrev Location := List String

namespace Path

/-- The steps of a path in order, without the empty ones. -/
def steps (path : String) : List String :=
  ((path.toList.splitOn '/').filter fun step => !step.isEmpty).map String.ofList

/-- The slashes that make a path absolute: none, one, or exactly two. -/
def root (path : String) : String :=
  match path.toList with
  | '/' :: '/' :: '/' :: _ => "/"
  | '/' :: '/' :: _ => "//"
  | '/' :: _ => "/"
  | _ => ""

def normalize (path : String) : String :=
  let normal := root path ++ "/".intercalate ((steps path).filter fun step => step ≠ ".")
  if normal.isEmpty then "." else normal

/-- The directory above the one that the steps lead to, last step first.  The
root is above itself. -/
def up : List String -> List String
  | [] => [".."]
  | ".." :: above => ".." :: ".." :: above
  | ["/"] => ["/"]
  | _ :: above => above

/-- Where a path starts, last step first. -/
def origin (path : String) : List String := if (root path).isEmpty then [] else ["/"]

/-- The location that a path names, if nothing on the way is a link. -/
def location (path : String) : Location :=
  ((steps path).foldl
    (fun here step => if step = "." then here else if step = ".." then up here else step :: here)
    (origin path)).reverse

end Path

namespace Location

/-- The location lies below the working directory, or is the working directory. -/
def isBelow (location : Location) : Bool :=
  location.head? ≠ some ".." && location.head? ≠ some "/"

/-- A path to a location. -/
def path (location : Location) : String :=
  match location with
  | "/" :: steps => "/" ++ "/".intercalate steps
  | steps => "/".intercalate steps

end Location

end ResumableStreams
