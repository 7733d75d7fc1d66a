import ResumableStreams.Machine

namespace ResumableStreams

/-!
# Machines called for by name

Where the kind of a machine is known only at run time, its arguments are
given by name, and not all of them need be given.  A machine that lends
buffers can be built in two ways: from its own arguments, with the usual
capacity where none is given, or from a capacity before all others.
-/

/-- The kinds of machines. -/
inductive MachineKind where
  | read
  | write
  | readExact
  | readToEnd
  | writeAll
  deriving DecidableEq

namespace MachineKind

def name : MachineKind -> String
  | .read => "Read"
  | .write => "Write"
  | .readExact => "ReadExact"
  | .readToEnd => "ReadToEnd"
  | .writeAll => "WriteAll"

def all : List MachineKind := [.read, .write, .readExact, .readToEnd, .writeAll]

def ofName? (name : String) : Option MachineKind := all.find? fun kind => kind.name = name

end MachineKind

def Machine.kind : Machine -> MachineKind
  | .read _ => .read
  | .write _ => .write
  | .readExact _ => .readExact
  | .readToEnd _ => .readToEnd
  | .writeAll _ => .writeAll

/-- What a machine is to be built from. -/
structure Recipe where
  kind : MachineKind
  /-- Build the machine from a capacity before all others. -/
  byCapacity : Bool
  capacity : Option Int
  target : Option Int
  data : Option Buffer

namespace Recipe

/-- The name of the way in which the machine is built. -/
def constructorName (recipe : Recipe) : String :=
  recipe.kind.name ++ if recipe.byCapacity then ".with_capacity" else ".__init__"

/-- The names of the arguments that are given. -/
def given (recipe : Recipe) : List String :=
  (if recipe.capacity.isSome then ["capacity"] else []) ++
    (if recipe.target.isSome then ["max_bytes"] else []) ++
    (if recipe.data.isSome then ["data"] else [])

/-- The names of the arguments that the machine is built from. -/
def taken (recipe : Recipe) : List String :=
  match recipe.kind with
  | .read | .readToEnd => ["capacity"]
  | .readExact => ["capacity", "max_bytes"]
  | .write | .writeAll => ["data"]

/-- The names of the arguments that must be given. -/
def required (recipe : Recipe) : List String :=
  match recipe.kind, recipe.byCapacity with
  | .read, true | .readToEnd, true => ["capacity"]
  | .readExact, true => ["capacity", "max_bytes"]
  | .readExact, false => ["max_bytes"]
  | .writeAll, _ => ["data"]
  | _, _ => []

/-- Why no machine can be built, whatever the values of the arguments are. -/
def refusal (recipe : Recipe) : Option Fault :=
  if recipe.byCapacity && (recipe.kind = .write || recipe.kind = .writeAll) then
    some (.lacksConstructor recipe.kind.name "with_capacity")
  else
    match recipe.given.filter (!recipe.taken.contains ·),
      recipe.required.filter (!recipe.given.contains ·) with
    | name :: _, _ => some (.unexpectedArgument recipe.constructorName name)
    | [], [] => none
    | [], names => some (.missingArguments recipe.constructorName names)

def build (recipe : Recipe) (memory : Memory) : Construction Machine :=
  let capacity := recipe.capacity.getD Read.defaultCapacity
  let data := recipe.data.getD (.frozen [])
  match recipe.refusal, recipe.kind with
  | some fault, _ => ⟨.error fault, memory, []⟩
  | none, .read => (Read.make capacity memory).map .read
  | none, .readExact => (ReadExact.make (recipe.target.getD 0) capacity memory).map .readExact
  | none, .readToEnd => (ReadToEnd.make capacity memory).map .readToEnd
  | none, .write =>
    let (machine, events) := Write.make data memory
    ⟨.ok (.write machine), memory, events⟩
  | none, .writeAll =>
    let (machine, events) := WriteAll.make data memory
    ⟨.ok (.writeAll machine), memory, events⟩

end Recipe

end ResumableStreams
